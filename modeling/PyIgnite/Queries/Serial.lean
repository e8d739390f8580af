import PyIgnite.Queries.Isolation

/-!
# PyIgnite.Queries.Serial

Concurrent calls on one client are serializable. An interleaving of `perform_async` tasks and
blocking `perform` calls in which every task returns leaves the shared client as the same calls
run one after another, each to its end: no update of the affinity version is lost, duplicated or
made up by the interleaving. `serialClient` is that sequential run: the tasks awaited alone in
index order, then the blocking calls in the order of the schedule.

The proof reorders the schedule: by `System.run_perm` it may take all resumes of task 0 first,
then those of task 1, and so on, then the blocking calls (`perm_resumesFirst`). Resuming one task
again and again is that task run alone (`run_resumes`), which ends as `perform_async` awaited
alone.

* `run_resumes`: `k` resumes of one task in a row are `k` of its slices.
* `run_taskBlocks`: the tasks run in turn give the client of the sequential run.
* `run_serial`: under any schedule in which every task returns, the client is `serialClient`.
-/

namespace PyIgnite

structure Invocation where
  call : Call
  rnd : RandLong
  request : List UInt8 → Except PyError (List UInt8)

def Invocation.perform (codecs : Codecs) (reader : Reader) (j : Invocation) (c : Client) :
    Outcome :=
  j.call.query.perform codecs reader ⟨c, j.call.protocolContext⟩ j.request j.call.queryParams
    j.call.responseConfig j.call.kwargs j.rnd

/-- The client after the tasks of `perform_async`, each awaited alone, one after another, and
then the blocking calls of `perform`, one after another. -/
def serialClient (codecs : Codecs) (reader : Reader) (c : Client)
    (tasks blocking : List Invocation) : Client :=
  blocking.foldl (fun c j => (j.perform codecs reader c).client)
    (tasks.foldl (fun c j => (j.perform codecs.async reader.async c).client) c)

def Event.blockingInvocation : Event → Option Invocation
  | .blocking call rnd request => some ⟨call, rnd, request⟩
  | _ => none

def Event.isResumeBelow (n : Nat) : Event → Bool
  | .resume i _ => decide (i < n)
  | _ => false

namespace System

variable (codecs : Codecs) (reader : Reader)

theorem run_append (evs evs' : List Event) : ∀ sys : System,
    (sys.run codecs reader (evs ++ evs')).1 =
      ((sys.run codecs reader evs).1.run codecs reader evs').1 := by
  induction evs with
  | nil => intro; rfl
  | cons ev evs ih => intro sys; exact ih _

theorem run_resumes (request : List UInt8 → Except PyError (List UInt8)) : ∀ (k : Nat)
    (sys : System) {i : Nat} {t : Task}, sys.tasks[i]? = some t →
    (sys.run codecs reader (List.replicate k (.resume i request))).1.client =
        (Task.run codecs reader request k sys.client t).1 ∧
      ∀ j ≠ i, (sys.run codecs reader (List.replicate k (.resume i request))).1.tasks[j]? =
        sys.tasks[j]?
  | 0, _, _, _, _ => ⟨rfl, fun _ _ => rfl⟩
  | k + 1, sys, i, t, h => by
    have hi := (List.getElem?_eq_some_iff.1 h).1
    have hs : (sys.step codecs reader (.resume i request)).1 =
        ⟨(t.step codecs reader request sys.client).1,
          sys.tasks.set i (t.step codecs reader request sys.client).2⟩ := by
      simp only [step, h]
    obtain ⟨hc, ht⟩ := run_resumes request k
      ⟨(t.step codecs reader request sys.client).1,
        sys.tasks.set i (t.step codecs reader request sys.client).2⟩ (List.getElem?_set_self hi)
    simp only [List.replicate_succ, run, hs]
    exact ⟨hc, fun j hj => (ht j hj).trans (List.getElem?_set_ne (Ne.symm hj))⟩

theorem run_blocking : ∀ (evs : List Event) (sys : System),
    (∀ ev ∈ evs, ev.blockingInvocation.isSome) →
    (sys.run codecs reader evs).1.client =
      (evs.filterMap Event.blockingInvocation).foldl (fun c j => (j.perform codecs reader c).client)
        sys.client
  | [], _, _ => rfl
  | ev :: evs, sys, h => by
    cases ev with
    | blocking call rnd request =>
      exact run_blocking evs _ fun e he => h e (List.mem_cons_of_mem _ he)
    | spawn => cases h _ (List.mem_cons_self _ _)
    | resume => cases h _ (List.mem_cons_self _ _)

theorem perm_resumesFirst (evs : List Event) : ∀ m : Nat,
    evs.Perm ((List.range m).flatMap (fun i => evs.filter (·.isResumeOf i)) ++
      evs.filter (fun ev => !ev.isResumeBelow m))
  | 0 => by
    rw [List.filter_eq_self.2 fun ev _ => by cases ev <;> simp [Event.isResumeBelow]]
    simp
  | m + 1 => by
    have hsplit :=
      List.filter_append_perm (·.isResumeOf m) (evs.filter fun ev => !ev.isResumeBelow m)
    rw [List.filter_filter, List.filter_filter] at hsplit
    have h₁ : evs.filter (fun ev => ev.isResumeOf m && !ev.isResumeBelow m) =
        evs.filter (·.isResumeOf m) :=
      List.filter_congr fun ev _ => by
        cases ev <;> simp [Event.isResumeOf, Event.isResumeBelow]; omega
    have h₂ : evs.filter (fun ev => !ev.isResumeOf m && !ev.isResumeBelow m) =
        evs.filter (fun ev => !ev.isResumeBelow (m + 1)) :=
      List.filter_congr fun ev _ => by
        cases ev with
        | resume i r =>
          show (!(i == m) && !decide (i < m)) = !decide (i < m + 1)
          rcases Nat.lt_trichotomy i m with h | rfl | h
          · simp [h, Nat.ne_of_lt h, Nat.lt_succ_of_lt h]
          · simp
          · simp [Nat.ne_of_gt h, Nat.not_lt.2 h.le, Nat.not_lt.2 h]
        | _ => rfl
    rw [h₁, h₂] at hsplit
    rw [List.range_succ, List.flatMap_append, List.flatMap_singleton, List.append_assoc]
    exact (perm_resumesFirst evs m).trans (hsplit.symm.append_left _)

section Serial

variable {calls : List Invocation} {evs : List Event}

theorem filter_isResumeOf {i : Nat} {j : Invocation} (hj : calls[i]? = some j)
    (hreq : ∀ i r, Event.resume i r ∈ evs → ∃ j, calls[i]? = some j ∧ r = j.request) :
    evs.filter (·.isResumeOf i) =
      List.replicate (evs.countP (·.isResumeOf i)) (.resume i j.request) := by
  refine List.eq_replicate_iff.2 ⟨(List.countP_eq_length_filter _ _).symm, fun ev hev => ?_⟩
  obtain ⟨hmem, hi⟩ := List.mem_filter.1 hev
  cases ev with
  | resume i' r =>
    obtain rfl : i' = i := by simpa [Event.isResumeOf] using hi
    obtain ⟨j', hj', rfl⟩ := hreq i' r hmem
    cases hj.symm.trans hj'
    rfl
  | spawn => cases hi
  | blocking => cases hi

theorem run_taskBlocks (c : Client)
    (hreq : ∀ i r, Event.resume i r ∈ evs → ∃ j, calls[i]? = some j ∧ r = j.request)
    (hn : ∀ i j, calls[i]? = some j →
      j.call.query.following.length + 5 ≤ evs.countP (·.isResumeOf i)) :
    ∀ m, m ≤ calls.length →
      let S := (System.run codecs reader ⟨c, calls.map fun j => .start j.call j.rnd⟩
        ((List.range m).flatMap fun i => evs.filter (·.isResumeOf i))).1
      S.client =
          (calls.take m).foldl (fun c j => (j.perform codecs.async reader.async c).client) c ∧
        ∀ i, m ≤ i → S.tasks[i]? = (calls.map fun j => Task.start j.call j.rnd)[i]?
  | 0, _ => ⟨rfl, fun _ _ => rfl⟩
  | m + 1, hm => by
    obtain ⟨hc, ht⟩ := run_taskBlocks c hreq hn m (by omega)
    obtain ⟨j, hj⟩ : ∃ j, calls[m]? = some j := ⟨_, List.getElem?_eq_getElem (by omega)⟩
    have hstart : (System.run codecs reader ⟨c, calls.map fun j => .start j.call j.rnd⟩
        ((List.range m).flatMap fun i => evs.filter (·.isResumeOf i))).1.tasks[m]? =
          some (.start j.call j.rnd) := by
      rw [ht m le_rfl, List.getElem?_map, hj]
      rfl
    obtain ⟨hc', ht'⟩ := run_resumes codecs reader j.request (evs.countP (·.isResumeOf m)) _ hstart
    intro S
    simp only [S, List.range_succ, List.flatMap_append, List.flatMap_singleton, run_append,
      filter_isResumeOf hj hreq]
    refine ⟨?_, fun i hi => (ht' i (by omega)).trans (ht i (by omega))⟩
    obtain ⟨k, hk⟩ := Nat.exists_eq_add_of_le (hn m j hj)
    rw [hc', hk, Task.run_add, Task.run_start_done, Task.run_done, List.take_succ, hj,
      Option.toList_some, List.foldl_append, List.foldl_cons, List.foldl_nil, ← hc]
    rfl

/-- Tasks of `perform_async` on one event loop are serializable: under any schedule that creates
no task, resumes each task with the one exchange of its call and often enough for it to
return, and runs blocking calls in between, the shared client ends as if the calls had run one
after another, the tasks each awaited alone in index order, then the blocking calls in the
order of the schedule. -/
theorem run_serial (c : Client) (hs : ∀ ev ∈ evs, ev.isSpawn = false)
    (hreq : ∀ i r, Event.resume i r ∈ evs → ∃ j, calls[i]? = some j ∧ r = j.request)
    (hn : ∀ i j, calls[i]? = some j →
      j.call.query.following.length + 5 ≤ evs.countP (·.isResumeOf i)) :
    (System.run codecs reader ⟨c, calls.map fun j => .start j.call j.rnd⟩ evs).1.client =
      serialClient codecs reader c calls (evs.filterMap Event.blockingInvocation) := by
  have hsame : ∀ i r r', Event.resume i r ∈ evs → Event.resume i r' ∈ evs → r = r' := by
    intro i r r' h h'
    obtain ⟨j, hj, rfl⟩ := hreq i r h
    obtain ⟨j', hj', rfl⟩ := hreq i r' h'
    cases hj.symm.trans hj'
    rfl
  obtain ⟨hc, -⟩ := run_taskBlocks codecs reader c hreq hn calls.length le_rfl
  rw [run_perm codecs reader _ (perm_resumesFirst evs calls.length) hs hsame, run_append,
    run_blocking, hc, List.take_length, List.filterMap_filter]
  · congr 1
    refine List.filterMap_congr fun ev _ => ?_
    cases ev <;> simp [Event.isResumeBelow, Event.blockingInvocation]
  · intro ev hev
    obtain ⟨hev, hb⟩ := List.mem_filter.1 hev
    cases ev with
    | blocking => rfl
    | spawn => cases hs _ hev
    | resume i r =>
      obtain ⟨j, hj, -⟩ := hreq i r hev
      simp [Event.isResumeBelow, (List.getElem?_eq_some_iff.1 hj).1] at hb

theorem interleavedTasks_serial :
    let codecs : Codecs := ⟨fun _ st _ => .ok st, fun _ st _ => .ok st, fun _ => [], fun _ => []⟩
    let reader : Reader := ⟨fun _ _ => .ok ⟨0, some 2, 1, 0, 0, none, []⟩,
      fun _ _ => .ok ⟨0, some 2, 2, 0, 0, none, []⟩, fun _ _ => .ok [], fun _ _ => .ok []⟩
    let call : Call := ⟨{ opCode := 0 }, ⟨true⟩, .none, [], []⟩
    let j : Invocation := ⟨call, ⟨0, by decide, by decide⟩, fun _ => .ok []⟩
    let evs : List Event := [.resume 0 j.request, .resume 1 j.request, .resume 0 j.request,
      .blocking call j.rnd j.request, .resume 1 j.request, .resume 0 j.request,
      .resume 1 j.request, .resume 0 j.request, .resume 1 j.request, .resume 0 j.request,
      .resume 1 j.request]
    (System.run codecs reader ⟨⟨(0, 0)⟩, [j, j].map fun j => .start j.call j.rnd⟩ evs).1.client =
      serialClient codecs reader ⟨(0, 0)⟩ [j, j] (evs.filterMap Event.blockingInvocation) := by
  intro codecs reader call j evs
  refine run_serial codecs reader ⟨(0, 0)⟩ (by simp [evs, Event.isSpawn]) (fun i r h => ?_)
    (fun i j' h => ?_)
  · have : (i = 0 ∨ i = 1) ∧ r = j.request := by simp [evs] at h; aesop
    rcases this with ⟨rfl | rfl, rfl⟩ <;> exact ⟨j, rfl, rfl⟩
  · rcases i with _ | _ | i <;> simp at h <;> subst h <;> decide

end Serial

end System

end PyIgnite
