import PyIgnite.Queries.Affinity

/-!
# PyIgnite.Queries.Isolation

Tasks of `perform_async` that share a client on one event loop interfere only through the
affinity version. A slice of a task reads the client only in `__post_process_response`, and only
to update it, so where the task goes next does not depend on the client. Every other event of
the loop (creating a task, resuming another one, a blocking `perform`) leaves the task where it
stands.

* `Task.step_task`, `Task.run_task`: the slices a task runs do not depend on the client.
* `System.step_task`: one event moves the task at index `i` only when it resumes that task.
* `System.run_task`: along any schedule, the task at index `i` has run the slices of its own
  resumes and nothing else.
* `System.run_isolated`: a task resumed often enough, whose requests are answered the same way
  each time, ends with the bytes sent and the result it has when awaited alone.
* `System.step_comm`: two events that create no task commute, since `__post_process_response`
  takes a maximum and a slice's next task does not read the client.
* `System.run_perm`: reordering a schedule that creates no task leaves the loop in the same
  state.
-/

namespace PyIgnite

namespace Task

variable (codecs : Codecs) (reader : Reader) (request : List UInt8 → Except PyError (List UInt8))

theorem step_task (t : Task) (c c' : Client) :
    (t.step codecs reader request c).2 = (t.step codecs reader request c').2 := by
  cases t with
  | encoding call header initPos values rest stream =>
    cases rest with
    | nil => rfl
    | cons f rest => simp only [step]; split <;> rfl
  | requesting call sent => simp only [step]; split <;> rfl
  | parsing call sent data =>
    simp only [step]
    cases reader.parseAsync call.spec data with
    | error e => rfl
    | ok response => simp only [Query.postProcessResponse_result]; split <;> rfl
  | decoding call sent result response => simp only [step]; split <;> rfl
  | start call rnd => rfl
  | done sent result => rfl

theorem run_task (n : Nat) : ∀ (t : Task) (c c' : Client),
    (run codecs reader request n c t).2 = (run codecs reader request n c' t).2 := by
  induction n with
  | zero => intros; rfl
  | succ n ih =>
    intro t c c'
    rw [run_succ, run_succ, ih _ _ (t.step codecs reader request c').1, step_task]

theorem run_start_done (client : Client) (call : Call) (rnd : RandLong) :
    let o := call.query.perform codecs.async reader.async ⟨client, call.protocolContext⟩ request
      call.queryParams call.responseConfig call.kwargs rnd
    run codecs reader request (call.query.following.length + 5) client (.start call rnd) =
      (o.client, .done o.sent o.result) := by
  have h := Query.performAsync_eq codecs reader call.query ⟨client, call.protocolContext⟩ request
    call.queryParams call.responseConfig call.kwargs rnd
  unfold Query.performAsync at h
  split at h
  · rename_i heq
    rw [← Option.some.inj h]
    exact heq
  · cases h

end Task

def Event.isResumeOf (i : Nat) : Event → Bool
  | .resume j _ => j == i
  | _ => false

namespace System

variable (codecs : Codecs) (reader : Reader)

theorem step_task {sys : System} {i : Nat} {t : Task} (h : sys.tasks[i]? = some t) :
    ∀ (ev : Event), (sys.step codecs reader ev).1.tasks[i]? =
      some (match ev with
        | .resume j request => if j = i then (t.step codecs reader request sys.client).2 else t
        | _ => t)
  | .spawn call rnd => by
    simp [step, List.getElem?_append_left (List.getElem?_eq_some_iff.1 h).1, h]
  | .resume j request => by
    simp only [step]
    by_cases hj : j = i
    · subst hj
      simp [h, List.getElem?_set_self (List.getElem?_eq_some_iff.1 h).1]
    · cases sys.tasks[j]? <;> simp [hj, List.getElem?_set_ne hj, h]
  | .blocking call rnd request => h

theorem run_task {i : Nat} {request : List UInt8 → Except PyError (List UInt8)} :
    ∀ (evs : List Event) (sys : System) (t : Task), sys.tasks[i]? = some t →
      (∀ r, Event.resume i r ∈ evs → r = request) → ∀ c : Client,
      (sys.run codecs reader evs).1.tasks[i]? =
        some (Task.run codecs reader request (evs.countP (·.isResumeOf i)) c t).2
  | [], _, _, h, _, _ => h
  | ev :: evs, sys, t, h, hreq, c => by
    rw [run, run_task evs _ _ (step_task codecs reader h ev)
      (fun r hr => hreq r (List.mem_cons_of_mem _ hr)) c, List.countP_cons]
    congr 1
    cases ev with
    | resume j r =>
      by_cases hj : j = i
      · subst hj
        obtain rfl := hreq r (List.mem_cons_self _ _)
        simp only [if_true, Event.isResumeOf, beq_self_eq_true, Task.run_succ]
        rw [Task.run_task _ _ _ _ _ c, Task.step_task _ _ _ _ _ c]
      · simp [hj, Event.isResumeOf]
    | spawn => simp [Event.isResumeOf]
    | blocking => simp [Event.isResumeOf]

/-- Tasks of `perform_async` on one event loop do not interfere: under any schedule, a task
resumed at least `|following| + 5` times, whose requests are answered the same way each time,
ends with the bytes sent and the result of `perform_async` awaited alone; the other tasks and
the blocking calls in between change only the shared client. -/
theorem run_isolated (sys : System) (evs : List Event) {i : Nat} {call : Call} {rnd : RandLong}
    {request : List UInt8 → Except PyError (List UInt8)}
    (h : sys.tasks[i]? = some (.start call rnd))
    (hreq : ∀ r, Event.resume i r ∈ evs → r = request)
    (hn : call.query.following.length + 5 ≤ evs.countP (·.isResumeOf i)) :
    let o := call.query.perform codecs.async reader.async ⟨sys.client, call.protocolContext⟩
      request call.queryParams call.responseConfig call.kwargs rnd
    (sys.run codecs reader evs).1.tasks[i]? = some (.done o.sent o.result) := by
  obtain ⟨m, hm⟩ := Nat.exists_eq_add_of_le hn
  rw [run_task codecs reader evs sys _ h hreq sys.client, hm, Task.run_add,
    Task.run_start_done, Task.run_done]

theorem interleavedTask_endsAlone :
    let codecs : Codecs := ⟨fun _ st _ => .ok st, fun _ st _ => .ok st, fun _ => [], fun _ => []⟩
    let reader : Reader := ⟨fun _ _ => .ok ⟨0, some 2, 1, 0, 0, none, []⟩,
      fun _ _ => .ok ⟨0, some 2, 1, 0, 0, none, []⟩, fun _ _ => .ok [], fun _ _ => .ok []⟩
    let call : Call := ⟨{ opCode := 0 }, ⟨true⟩, .none, [], []⟩
    let rnd : RandLong := ⟨0, by decide, by decide⟩
    let request : List UInt8 → Except PyError (List UInt8) := fun _ => .ok []
    let sys : System := ⟨⟨(0, 0)⟩, [.start call rnd, .start call rnd]⟩
    let evs : List Event := [.resume 0 request, .resume 1 request, .blocking call rnd request,
      .resume 0 request, .resume 0 request, .resume 1 request, .resume 0 request,
      .resume 0 request]
    let o := call.query.perform codecs.async reader.async ⟨sys.client, call.protocolContext⟩
      request call.queryParams call.responseConfig call.kwargs rnd
    (sys.run codecs reader evs).1.tasks[0]? = some (.done o.sent o.result) := by
  intro codecs reader call rnd request sys evs
  exact run_isolated codecs reader sys evs rfl (fun r hr => by simpa [evs] using hr) (by decide)

end System

/-! ## The order of events -/

def Client.postProcessed (c : Client) : Option Response → Client
  | some r => (Query.postProcessResponse c r).1
  | none => c

theorem Client.eq_of_toLex {a b : Client}
    (h : toLex a.affinityVersion = toLex b.affinityVersion) : a = b := by
  cases a; cases b; cases toLex.injective h; rfl

theorem postProcessResponse_comm (c : Client) (r r' : Response) :
    (Query.postProcessResponse (Query.postProcessResponse c r).1 r').1 =
      (Query.postProcessResponse (Query.postProcessResponse c r').1 r).1 := by
  apply Client.eq_of_toLex
  simp only [postProcessResponse_affinityVersion]
  split_ifs <;> first | rfl | exact Max.right_comm _ _ _

theorem Client.postProcessed_comm (c : Client) (o o' : Option Response) :
    (c.postProcessed o).postProcessed o' = (c.postProcessed o').postProcessed o := by
  cases o <;> cases o' <;> first | rfl | exact postProcessResponse_comm _ _ _

def Event.isSpawn : Event → Bool
  | .spawn .. => true
  | _ => false

namespace System

variable (codecs : Codecs) (reader : Reader)

theorem step_resume (sys : System) (i : Nat)
    (request : List UInt8 → Except PyError (List UInt8)) :
    (sys.step codecs reader (.resume i request)).1 =
      match sys.tasks[i]? with
      | some t => ⟨sys.client.postProcessed (t.processed reader),
          sys.tasks.set i (t.step codecs reader request sys.client).2⟩
      | none => sys := by
  simp only [step]
  cases sys.tasks[i]? with
  | none => rfl
  | some t =>
    dsimp only
    rw [Task.step_client]
    cases t.processed reader <;> rfl

theorem step_blocking (sys : System) (call : Call) (rnd : RandLong)
    (request : List UInt8 → Except PyError (List UInt8)) (c : Client) :
    (sys.step codecs reader (.blocking call rnd request)).1 =
      ⟨sys.client.postProcessed (call.query.processed codecs reader ⟨c, call.protocolContext⟩
        request call.queryParams call.responseConfig call.kwargs rnd), sys.tasks⟩ := by
  have hc : call.query.processed codecs reader ⟨sys.client, call.protocolContext⟩ request
      call.queryParams call.responseConfig call.kwargs rnd =
    call.query.processed codecs reader ⟨c, call.protocolContext⟩ request call.queryParams
      call.responseConfig call.kwargs rnd := rfl
  simp only [step]
  rw [Query.perform_client, hc]
  cases call.query.processed codecs reader ⟨c, call.protocolContext⟩ request call.queryParams
    call.responseConfig call.kwargs rnd <;> rfl

theorem step_comm_resume (sys : System) {i j : Nat} (hij : i ≠ j)
    (r r' : List UInt8 → Except PyError (List UInt8)) :
    ((sys.step codecs reader (.resume i r)).1.step codecs reader (.resume j r')).1 =
      ((sys.step codecs reader (.resume j r')).1.step codecs reader (.resume i r)).1 := by
  cases hi : sys.tasks[i]? <;> cases hj : sys.tasks[j]? <;>
    simp only [step_resume, hi, hj, List.getElem?_set_ne hij, List.getElem?_set_ne (Ne.symm hij)]
  rename_i ti tj
  rw [Task.step_task codecs reader r ti (sys.client.postProcessed (tj.processed reader))
      sys.client,
    Task.step_task codecs reader r' tj (sys.client.postProcessed (ti.processed reader))
      sys.client,
    List.set_comm _ _ _ hij, Client.postProcessed_comm]

theorem step_comm_resume_blocking (sys : System) (i : Nat)
    (r : List UInt8 → Except PyError (List UInt8)) (call : Call) (rnd : RandLong)
    (request : List UInt8 → Except PyError (List UInt8)) :
    ((sys.step codecs reader (.resume i r)).1.step codecs reader (.blocking call rnd request)).1 =
      ((sys.step codecs reader (.blocking call rnd request)).1.step codecs reader
        (.resume i r)).1 := by
  cases hi : sys.tasks[i]? <;>
    simp only [step_resume, step_blocking codecs reader _ call rnd request sys.client, hi]
  rw [Task.step_task codecs reader r _ (sys.client.postProcessed _) sys.client,
    Client.postProcessed_comm]

theorem step_comm (sys : System) {ev ev' : Event} (hs : ev.isSpawn = false)
    (hs' : ev'.isSpawn = false)
    (hsame : ∀ i r r', ev = .resume i r → ev' = .resume i r' → r = r') :
    ((sys.step codecs reader ev).1.step codecs reader ev').1 =
      ((sys.step codecs reader ev').1.step codecs reader ev).1 := by
  cases ev with
  | spawn => cases hs
  | resume i r =>
    cases ev' with
    | spawn => cases hs'
    | resume j r' =>
      by_cases hij : i = j
      · subst hij
        obtain rfl := hsame i r r' rfl rfl
        rfl
      · exact step_comm_resume codecs reader sys hij r r'
    | blocking call rnd request =>
      exact step_comm_resume_blocking codecs reader sys i r call rnd request
  | blocking call rnd request =>
    cases ev' with
    | spawn => cases hs'
    | resume j r' =>
      exact (step_comm_resume_blocking codecs reader sys j r' call rnd request).symm
    | blocking call' rnd' request' =>
      simp only [step_blocking codecs reader _ _ _ _ sys.client]
      rw [Client.postProcessed_comm]

theorem run_perm (sys : System) {evs evs' : List Event} (hp : evs.Perm evs')
    (hs : ∀ ev ∈ evs, ev.isSpawn = false)
    (hsame : ∀ i r r', Event.resume i r ∈ evs → Event.resume i r' ∈ evs → r = r') :
    (sys.run codecs reader evs).1 = (sys.run codecs reader evs').1 := by
  induction hp generalizing sys with
  | nil => rfl
  | cons ev _ ih =>
    exact ih _ (fun e he => hs e (List.mem_cons_of_mem _ he))
      (fun i r r' h h' => hsame i r r' (List.mem_cons_of_mem _ h) (List.mem_cons_of_mem _ h'))
  | swap ev ev' evs =>
    show (run codecs reader ((sys.step codecs reader ev').1.step codecs reader ev).1 evs).1 =
      (run codecs reader ((sys.step codecs reader ev).1.step codecs reader ev').1 evs).1
    rw [step_comm codecs reader sys (hs ev' (by simp)) (hs ev (by simp))
      (fun i r r' h h' => hsame i r r' (by simp [h]) (by simp [h']))]
  | trans h₁ _ ih₁ ih₂ =>
    exact (ih₁ sys hs hsame).trans (ih₂ sys (fun e he => hs e (h₁.mem_iff.2 he))
      (fun i r r' h h' => hsame i r r' (h₁.mem_iff.2 h) (h₁.mem_iff.2 h')))

end System

end PyIgnite
