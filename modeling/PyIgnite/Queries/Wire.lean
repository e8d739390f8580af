import PyIgnite.Queries.Query

/-!
# PyIgnite.Queries.Wire

The requests of `from_python` as they travel on one connection: frame after frame, each a signed
little-endian int32 `length` followed by that many bytes. `splitFrames` is the reader at the
other end of the socket; it is not code of the client, but says what the header's `length` field
is for.

* `splitFrames_flatten`: the reader takes apart every concatenation of frames.
* `Query.Framed.isFrame`: what `from_python` writes on a fresh stream is a frame.
* `splitFrames_requests`: requests written back to back come apart into the requests sent.
* `Query.fromPython_oneFrame_iff`: the ctypes fields of `__write_header` wrap silently, and the
  reader takes what `from_python` wrote for one request exactly when `length` did not wrap.
-/

namespace PyIgnite

def IsFrame (f : List UInt8) : Prop := 4 ≤ f.length ∧ leSigned (f.take 4) = f.length - 4

instance (f : List UInt8) : Decidable (IsFrame f) := inferInstanceAs (Decidable (_ ∧ _))

/-- A reader of a stream of requests: a signed little-endian int32 length, then that many
bytes, frame after frame until the bytes run out; `none` when a length is negative or runs past
the end. -/
def splitFrames (bytes : List UInt8) : Option (List (List UInt8)) :=
  if bytes = [] then some []
  else
    let n := (leSigned (bytes.take 4))
    if h : 4 ≤ bytes.length ∧ 0 ≤ n ∧ 4 + n.toNat ≤ bytes.length then
      (splitFrames (bytes.drop (4 + n.toNat))).map (bytes.take (4 + n.toNat) :: ·)
    else none
termination_by bytes.length
decreasing_by simp_wf; have := h.1; omega

@[simp] theorem splitFrames_nil : splitFrames [] = some [] := by
  rw [splitFrames]; simp

theorem splitFrames_append {f : List UInt8} (hf : IsFrame f) (rest : List UInt8) :
    splitFrames (f ++ rest) = (splitFrames rest).map (f :: ·) := by
  obtain ⟨h4, hlen⟩ := hf
  have htake : (f ++ rest).take 4 = f.take 4 := List.take_append_of_le_length h4
  have hn : 4 + (leSigned (f.take 4)).toNat = f.length := by rw [hlen]; omega
  rw [splitFrames, if_neg (List.ne_nil_of_length_pos (by simp; omega))]
  simp only [htake, hn]
  rw [dif_pos ⟨by simp; omega, by rw [hlen]; omega, by simp⟩, List.take_left, List.drop_left]

theorem splitFrames_flatten : ∀ fs : List (List UInt8), (∀ f ∈ fs, IsFrame f) →
    splitFrames fs.flatten = some fs
  | [], _ => splitFrames_nil
  | f :: fs, h => by
    rw [List.flatten_cons, splitFrames_append (h f (List.mem_cons_self _ _)),
      splitFrames_flatten fs fun g hg => h g (List.mem_cons_of_mem _ hg)]
    rfl

theorem Query.Framed.isFrame {q : Query} {rnd : RandLong} {body : List UInt8} {st : BinaryStream}
    (h : Query.Framed q .empty rnd body (.ok st)) : IsFrame st.getvalue := by
  obtain ⟨hdr, hl, hs, h4, -, -⟩ := h
  cases hs
  have h14 : 14 ≤ q.cls.sizeof := by cases q.cls <;> simp
  refine ⟨by simp; omega, ?_⟩
  simp only [BinaryStream.getvalue_eq, BinaryStream.empty_buf, List.nil_append, List.length_append]
  rw [List.take_append_of_le_length (by omega), h4]
  push_cast
  omega

/-- Requests that `from_python` wrote on fresh streams, sent back to back on one connection, come
apart at the other end into exactly the requests sent: the `length` field delimits them. -/
theorem splitFrames_requests (frames : List (List UInt8))
    (h : ∀ f ∈ frames, ∃ (q : Query) (rnd : RandLong) (body : List UInt8) (st : BinaryStream),
      Query.Framed q .empty rnd body (.ok st) ∧ st.getvalue = f) :
    splitFrames frames.flatten = some frames :=
  splitFrames_flatten frames fun f hf => by
    obtain ⟨q, rnd, body, st, hfr, rfl⟩ := h f hf
    exact hfr.isFrame

theorem twoRequests_split :
    splitFrames [[10, 0, 0, 0, 5, 0, 0, 0, 0, 0, 0, 0, 0, 0],
        [10, 0, 0, 0, 6, 0, 0, 0, 0, 0, 0, 0, 0, 0]].flatten =
      some [[10, 0, 0, 0, 5, 0, 0, 0, 0, 0, 0, 0, 0, 0],
        [10, 0, 0, 0, 6, 0, 0, 0, 0, 0, 0, 0, 0, 0]] := by
  have hreq (op : Int) (hop : -2 ^ 15 ≤ op ∧ op < 2 ^ 15) :
      Query.Framed { opCode := op } .empty ⟨0, by decide, by decide⟩ []
        (({ opCode := op } : Query).encode (fun _ st _ => .ok st) (.stream .empty) .none
          ⟨0, by decide, by decide⟩) :=
    @Query.encode_framed _ { opCode := op } .empty rfl hop .none (fun _ => [])
      (fun f hf => by cases hf) (by simp) _
  apply splitFrames_requests
  intro f hf
  simp only [List.mem_cons, List.mem_singleton, List.not_mem_nil, or_false] at hf
  rcases hf with rfl | rfl
  · exact ⟨_, _, _, _, hreq 5 (by norm_num), rfl⟩
  · exact ⟨_, _, _, _, hreq 6 (by norm_num), rfl⟩

theorem splitFrames_eq_single_iff (f : List UInt8) : splitFrames f = some [f] ↔ IsFrame f := by
  refine ⟨fun h => ?_, fun hf => by simpa using splitFrames_append hf []⟩
  rw [splitFrames] at h
  dsimp only at h
  split_ifs at h with h0 hc
  · cases h
  · obtain ⟨a, -, ha⟩ := Option.map_eq_some'.mp h
    have hlen := congrArg List.length (List.cons.inj ha).1
    rw [List.length_take] at hlen
    exact ⟨hc.1, by omega⟩

namespace Query

/-- What `from_python` writes on a fresh stream when every field's codec appends its encoding:
`__write_header` stores the byte count after `length` and the op code in ctypes fields, which wrap
instead of raising, and the reader takes the bytes for that one request exactly when the count is
below 2^31. -/
theorem fromPython_oneFrame_iff (codecs : Codecs) (q : Query) (values : PyObj)
    (enc : String × DataType → List UInt8)
    (h : ∀ f ∈ q.following, ∃ v, values.getitem f.1 = .ok v ∧
      ∀ st, DataType.fromPython codecs f.2 st v = .ok (st.write (enc f)))
    (rnd : RandLong) :
    let n := ((q.following.map enc).flatten).length
    ∃ st : BinaryStream, q.fromPython codecs (.stream .empty) values rnd = .ok st ∧
      st.getvalue.length = q.cls.sizeof + n ∧
      leSigned (st.getvalue.take 4) = ((q.cls.sizeof : Int) - 4 + n).bmod (2 ^ 32) ∧
      leSigned ((st.getvalue.drop 4).take 2) = q.opCode.bmod (2 ^ 16) ∧
      (splitFrames st.getvalue = some [st.getvalue] ↔ (q.cls.sizeof : Int) - 4 + n < 2 ^ 31) := by
  dsimp only
  refine ⟨_, encode_eq rfl enc h rnd, ?_⟩
  generalize (q.following.map enc).flatten = body
  obtain ⟨h4, h2, -⟩ := patchedHeader_fields q .empty rnd body.length
  have h14 : 14 ≤ q.cls.sizeof := by cases q.cls <;> simp
  have hl := Header.length_toBytes (q.patchedHeader .empty rnd body.length) q.cls
  have hlen : leSigned (((q.patchedHeader .empty rnd body.length).toBytes q.cls).take 4) =
      ((q.cls.sizeof : Int) - 4 + body.length).bmod (2 ^ 32) := by
    rw [h4, leSigned_toNat (k := 4) (by norm_num), BitVec.toInt_ofInt]
  simp only [BinaryStream.getvalue_eq, BinaryStream.empty_buf, List.nil_append]
  rw [List.take_append_of_le_length (by omega), List.drop_append_of_le_length (by omega),
    List.take_append_of_le_length (by simp; omega), hlen, h2, leSigned_toNat (k := 2) (by norm_num),
    BitVec.toInt_ofInt, splitFrames_eq_single_iff, IsFrame,
    List.take_append_of_le_length (by omega), hlen, List.length_append, hl]
  refine ⟨rfl, rfl, rfl, ⟨fun ⟨_, h⟩ => ?_, fun h => ⟨by omega, ?_⟩⟩⟩
  · have := Int.bmod_lt (x := (q.cls.sizeof : Int) - 4 + body.length) (m := 2 ^ 32) (by norm_num)
    push_cast at h
    omega
  · rw [Int.bmod_def, Int.emod_eq_of_lt (by omega) (by omega), if_pos (by omega)]
    push_cast
    omega

theorem wideOpCode_oneFrame :
    let codecs : Codecs := ⟨fun _ st _ => .ok st, fun _ st _ => .ok st, fun _ => [], fun _ => []⟩
    let q : Query := { opCode := 40000 }
    let rnd : RandLong := ⟨0, by decide, by decide⟩
    ∃ st : BinaryStream, q.fromPython codecs (.stream .empty) (.dict []) rnd = .ok st ∧
      st.getvalue.length = 14 ∧ leSigned (st.getvalue.take 4) = 10 ∧
      leSigned ((st.getvalue.drop 4).take 2) = -25536 ∧
      (splitFrames st.getvalue = some [st.getvalue] ↔ (10 : Int) < 2 ^ 31) := by
  intro codecs q rnd
  obtain ⟨st, hst, hl, h4, h2, hs⟩ :=
    fromPython_oneFrame_iff codecs q (.dict []) (fun _ => []) (fun f hf => by cases hf) rnd
  exact ⟨st, hst, hl, h4.trans (by decide), h2.trans (by decide), hs.trans (by decide)⟩

end Query

end PyIgnite
