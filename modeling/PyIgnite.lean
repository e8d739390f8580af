import PyIgnite.Bytes
import PyIgnite.Stream
import PyIgnite.Python
import PyIgnite.Queries.Header
import PyIgnite.Queries.Codec
import PyIgnite.Queries.Query
import PyIgnite.Queries.Perform
import PyIgnite.Queries.Async
import PyIgnite.Queries.Affinity
import PyIgnite.Queries.Isolation
import PyIgnite.Queries.Serial
import PyIgnite.Queries.Wire
import PyIgnite.Api.SchemaId
import PyIgnite.Api.Binary
import PyIgnite.Api.Sql
