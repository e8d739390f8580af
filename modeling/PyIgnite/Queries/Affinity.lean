import PyIgnite.Queries.Async
import Mathlib

/-!
# PyIgnite.Queries.Affinity

The affinity version `client.affinity_version`, the one piece of state that queries share. Every
completed query hands its response to `__post_process_response`, which replaces the version when
the response says the topology changed and carries a greater `(major, minor)` pair.

Queries run as tasks of `perform_async` on an event loop, interleaved at their `await`s, and as
blocking `perform` calls, which hold the loop until they return. `System` is the client and the
tasks; an `Event` creates a task, resumes one up to its next `await`, or runs a blocking
`perform`; `System.run` returns the responses that reached `__post_process_response`, in order.

The abstract view: the version is the lexicographic maximum of the initial version and of the
versions of the topology-changing responses processed so far (`IsAffinityMax`).

* `postProcessResponse_affinityVersion`: one post-processing takes the maximum; Python's tuple
  comparison is the lexicographic order (`tupleGt_iff`).
* `Task.step_client`, `System.step_client`: a slice or a blocking call touches the client only
  through `__post_process_response`, once, with the response the event reports.
* `System.run_isAffinityMax`: the run invariant, over every schedule.
* `affinityVersion_runs`: the version never regresses, ends at the maximum, and so does not
  depend on the order in which the responses were processed.
-/

namespace PyIgnite

theorem tupleGt_iff (new old : Int × Int) : tupleGt new old = true ↔ toLex old < toLex new := by
  rw [Prod.Lex.lt_iff]
  simp only [tupleGt, Bool.or_eq_true, decide_eq_true_eq, Bool.and_eq_true, beq_iff_eq]
  omega

theorem postProcessResponse_affinityVersion (c : Client) (r : Response) :
    toLex (Query.postProcessResponse c r).1.affinityVersion =
      if r.topologyChanged then max (toLex c.affinityVersion) (toLex r.affinity)
      else toLex c.affinityVersion := by
  rw [Query.postProcessResponse_client]
  by_cases ht : r.topologyChanged
  · by_cases hg : tupleGt r.affinity c.affinityVersion
    · simp only [ht, hg, and_self, if_true]
      exact (max_eq_right ((tupleGt_iff _ _).1 hg).le).symm
    · have hle : toLex r.affinity ≤ toLex c.affinityVersion :=
        not_lt.1 fun h => hg ((tupleGt_iff _ _).2 h)
      simp [ht, hg, max_eq_left hle]
  · simp [ht]

/-! ## The abstract view -/

def affinitySet (v0 : Int × Int) (rs : List Response) : Set (Lex (Int × Int)) :=
  insert (toLex v0) {x | ∃ r ∈ rs, (∃ f, r.flags = some f ∧ Int.land f rhfTopologyChanged ≠ 0) ∧
    toLex (r.affinityVersion, r.affinityMinor) = x}

/-- `v` is the lexicographic maximum of `v0` and of the versions of the topology-changing
responses in `rs`. -/
def IsAffinityMax (v0 : Int × Int) (rs : List Response) (v : Int × Int) : Prop :=
  IsGreatest (affinitySet v0 rs) (toLex v)

theorem isAffinityMax_nil (v0 : Int × Int) : IsAffinityMax v0 [] v0 := by
  refine ⟨Set.mem_insert _ _, ?_⟩
  rintro x (rfl | ⟨r, hr, -⟩)
  · exact le_rfl
  · simp at hr

theorem topologyChanged_iff (r : Response) :
    r.topologyChanged = true ↔ ∃ f, r.flags = some f ∧ Int.land f rhfTopologyChanged ≠ 0 := by
  rw [Response.topologyChanged]
  cases r.flags <;> simp

theorem affinitySet_eq (v0 : Int × Int) (rs : List Response) :
    affinitySet v0 rs =
      insert (toLex v0) {x | ∃ r ∈ rs, r.topologyChanged ∧ toLex r.affinity = x} := by
  simp only [affinitySet, topologyChanged_iff]
  rfl

theorem affinitySet_append (v0 : Int × Int) (rs : List Response) (r : Response) :
    affinitySet v0 (rs ++ [r]) =
      if r.topologyChanged then insert (toLex r.affinity) (affinitySet v0 rs)
      else affinitySet v0 rs := by
  rw [affinitySet_eq, affinitySet_eq]
  ext x
  by_cases ht : r.topologyChanged <;>
    simp only [ht, if_true, Bool.false_eq_true, if_false, Set.mem_insert_iff,
      Set.mem_setOf_eq, List.mem_append, List.mem_singleton, or_and_right, exists_or,
      exists_eq_left, true_and, false_and, or_false, false_or, @eq_comm _ (toLex r.affinity),
      or_comm, or_left_comm]

theorem IsAffinityMax.postProcess {v0 : Int × Int} {rs : List Response} {c : Client}
    (h : IsAffinityMax v0 rs c.affinityVersion) (r : Response) :
    IsAffinityMax v0 (rs ++ [r]) (Query.postProcessResponse c r).1.affinityVersion := by
  unfold IsAffinityMax
  rw [postProcessResponse_affinityVersion, affinitySet_append]
  split_ifs
  · rw [max_comm]
    exact h.insert _
  · exact h

theorem affinitySet_perm (v0 : Int × Int) {rs rs' : List Response} (h : rs.Perm rs') :
    affinitySet v0 rs = affinitySet v0 rs' := by
  ext x
  simp only [affinitySet, Set.mem_insert_iff, Set.mem_setOf_eq, h.mem_iff]

/-! ## Tasks and blocking calls touch the client once -/

namespace Task

def processed (reader : Reader) : Task → Option Response
  | parsing call _ data => (reader.parseAsync call.spec data).toOption
  | _ => none

theorem step_client (codecs : Codecs) (reader : Reader)
    (request : List UInt8 → Except PyError (List UInt8)) (client : Client) (t : Task) :
    (t.step codecs reader request client).1 =
      match t.processed reader with
      | some r => (Query.postProcessResponse client r).1
      | none => client := by
  cases t with
  | encoding call header initPos values rest stream =>
    cases rest with
    | nil => rfl
    | cons f rest => simp only [step, processed]; split <;> rfl
  | requesting call sent => simp only [step, processed]; split <;> rfl
  | parsing call sent data =>
    simp only [step, processed]
    cases reader.parseAsync call.spec data with
    | error e => rfl
    | ok response => simp only [Query.postProcessResponse_result]; split <;> rfl
  | decoding call sent result response => simp only [step, processed]; split <;> rfl
  | start call rnd => rfl
  | done sent result => rfl

end Task

/-- The client and the tasks of `perform_async` on the event loop. -/
structure System where
  client : Client
  tasks : List Task

/-- What the event loop does next. -/
inductive Event where
  /-- A task of `perform_async` is created. -/
  | spawn (call : Call) (rnd : RandLong)
  /-- Task `i` is resumed up to its next `await`; `request` answers its `conn.request`. -/
  | resume (i : Nat) (request : List UInt8 → Except PyError (List UInt8))
  /-- A blocking `perform` runs to its end while the loop waits. -/
  | blocking (call : Call) (rnd : RandLong) (request : List UInt8 → Except PyError (List UInt8))

namespace System

variable (codecs : Codecs) (reader : Reader)

/-- One event, and the response it hands to `__post_process_response`, if any. -/
def step (sys : System) : Event → System × Option Response
  | .spawn call rnd => (⟨sys.client, sys.tasks ++ [.start call rnd]⟩, none)
  | .resume i request =>
    match sys.tasks[i]? with
    | some t =>
      (⟨(t.step codecs reader request sys.client).1,
        sys.tasks.set i (t.step codecs reader request sys.client).2⟩, t.processed reader)
    | none => (sys, none)
  | .blocking call rnd request =>
    let conn : Connection := ⟨sys.client, call.protocolContext⟩
    (⟨(call.query.perform codecs reader conn request call.queryParams call.responseConfig
        call.kwargs rnd).client, sys.tasks⟩,
      call.query.processed codecs reader conn request call.queryParams call.responseConfig
        call.kwargs rnd)

def run : System → List Event → System × List Response
  | sys, [] => (sys, [])
  | sys, ev :: evs =>
    ((run (sys.step codecs reader ev).1 evs).1,
      (sys.step codecs reader ev).2.toList ++ (run (sys.step codecs reader ev).1 evs).2)

theorem step_client (sys : System) (ev : Event) :
    (sys.step codecs reader ev).1.client =
      match (sys.step codecs reader ev).2 with
      | some r => (Query.postProcessResponse sys.client r).1
      | none => sys.client := by
  cases ev with
  | spawn call rnd => rfl
  | resume i request =>
    simp only [step]
    cases sys.tasks[i]? with
    | none => rfl
    | some t => exact Task.step_client codecs reader request sys.client t
  | blocking call rnd request => exact Query.perform_client

theorem run_isAffinityMax (v0 : Int × Int) :
    ∀ (evs : List Event) (sys : System) (rs : List Response),
      IsAffinityMax v0 rs sys.client.affinityVersion →
      IsAffinityMax v0 (rs ++ (sys.run codecs reader evs).2)
        (sys.run codecs reader evs).1.client.affinityVersion
  | [], sys, rs, h => by simpa [run] using h
  | ev :: evs, sys, rs, h => by
    have hstep : IsAffinityMax v0 (rs ++ (sys.step codecs reader ev).2.toList)
        (sys.step codecs reader ev).1.client.affinityVersion := by
      rw [step_client]
      cases (sys.step codecs reader ev).2 with
      | none => simpa using h
      | some r => exact h.postProcess r
    simpa [run] using run_isAffinityMax v0 evs _ _ hstep

end System

/-- The affinity version over interleaved queries: no event lowers it; after any schedule it is
the lexicographic maximum of the initial version and of the versions of the topology-changing
responses that reached `__post_process_response`; hence two schedules that process the same
responses in different orders end at the same version. -/
theorem affinityVersion_runs (codecs : Codecs) (reader : Reader) :
    (∀ (sys : System) (ev : Event), toLex sys.client.affinityVersion ≤
        toLex (sys.step codecs reader ev).1.client.affinityVersion) ∧
    (∀ (sys : System) (evs : List Event),
      IsAffinityMax sys.client.affinityVersion (sys.run codecs reader evs).2
        (sys.run codecs reader evs).1.client.affinityVersion) ∧
    (∀ (sys : System) (evs evs' : List Event),
      (sys.run codecs reader evs).2.Perm (sys.run codecs reader evs').2 →
      (sys.run codecs reader evs).1.client.affinityVersion =
        (sys.run codecs reader evs').1.client.affinityVersion) := by
  have hmax : ∀ (sys : System) (evs : List Event), IsAffinityMax sys.client.affinityVersion
      (sys.run codecs reader evs).2 (sys.run codecs reader evs).1.client.affinityVersion :=
    fun sys evs => by
      simpa using System.run_isAffinityMax codecs reader _ evs sys [] (isAffinityMax_nil _)
  refine ⟨fun sys ev => ?_, hmax, fun sys evs evs' hp => ?_⟩
  · rw [System.step_client]
    cases (sys.step codecs reader ev).2 with
    | none => exact le_rfl
    | some r =>
      rw [postProcessResponse_affinityVersion]
      split
      · exact le_max_left _ _
      · exact le_rfl
  · have h₁ := hmax sys evs
    have h₂ := hmax sys evs'
    unfold IsAffinityMax at h₁ h₂
    rw [affinitySet_perm _ hp] at h₁
    exact toLex.injective (h₁.unique h₂)

end PyIgnite
