import BulkOnly.Proofs.Deferral

set_option autoImplicit false

namespace BulkOnly

namespace Urb.Queue

variable {queue rest : Queue} {urb other : Urb} {id : Nat}

def first? (queue : Queue) (id : Nat) : Option Urb := (queue.remove? id).map Prod.fst

theorem first?_eq_some_iff :
    queue.first? id = some urb ↔ ∃ rest, queue.remove? id = some (urb, rest) := by
  simp [first?]

theorem remove?_append_absent (absent : queue.contains urb.id = false) :
    (queue.append urb).remove? urb.id = some (urb, queue) := by
  have others : ∀ other ∈ queue.toList, ¬ (other.id == urb.id) = true := by
    simpa [contains] using absent
  have missing : queue.toList.find? (fun other => other.id == urb.id) = none := by
    simpa using others
  simp [remove?, append, missing, List.eraseP_append_right _ others]

theorem remove?_append (removed : queue.remove? id = some (urb, rest)) (other : Urb) :
    (queue.append other).remove? id = some (urb, rest.append other) := by
  obtain ⟨found, hit, pair⟩ := Option.map_eq_some_iff.mp removed
  obtain ⟨rfl, rfl⟩ := Prod.mk.inj pair
  have member : found ∈ queue.toList := List.mem_of_find?_eq_some hit
  have same := List.find?_some hit
  have front : (queue.toList ++ [other]).eraseP (fun urb => urb.id == id) =
      queue.toList.eraseP (fun urb => urb.id == id) ++ [other] :=
    List.eraseP_append_left (by exact same) [other] member
  simp [remove?, append, hit, front]

theorem find?_eraseP {id' : Nat} (different : id' ≠ id) (urbs : List Urb) :
    (urbs.eraseP (fun urb => urb.id == id)).find? (fun urb => urb.id == id') =
      urbs.find? (fun urb => urb.id == id') := by
  induction urbs with
  | nil => rfl
  | cons urb rest ih =>
    by_cases same : urb.id = id
    · have distinct : (urb.id == id') = false := by simpa [same] using different.symm
      rw [List.eraseP_cons_of_pos (by simpa using same), List.find?_cons, distinct]
    · rw [List.eraseP_cons_of_neg (by simpa using same), List.find?_cons, List.find?_cons, ih]

-- Two transfers with different ids can be taken out in either order.
theorem remove?_other {id' : Nat} (removed : queue.remove? id = some (urb, rest))
    (different : id' ≠ id) :
    (queue.remove? id' = none ∧ rest.remove? id' = none) ∨
      ∃ other queue' rest', queue.remove? id' = some (other, queue') ∧
        rest.remove? id' = some (other, rest') ∧ queue'.remove? id = some (urb, rest') := by
  obtain ⟨found, hit, pair⟩ := Option.map_eq_some_iff.mp removed
  obtain ⟨rfl, rfl⟩ := Prod.mk.inj pair
  have there := find?_eraseP different queue.toList
  cases hit' : queue.toList.find? (fun urb => urb.id == id') with
  | none => exact .inl ⟨by simp [remove?, hit'], by simp [remove?, there, hit']⟩
  | some other =>
    have stays := find?_eraseP different.symm queue.toList
    have either : (queue.toList.eraseP fun urb => urb.id == id').eraseP (fun urb => urb.id == id) =
        (queue.toList.eraseP fun urb => urb.id == id).eraseP (fun urb => urb.id == id') := by
      refine List.eraseP_comm fun urb _ => ?_
      by_cases same : urb.id = id
      · exact .inl (by simpa [same] using different.symm)
      · exact .inr (by simpa using same)
    have taken : queue.remove? id' =
        some (other, ⟨queue.toList.eraseP fun urb => urb.id == id'⟩) := by
      rw [remove?, hit']
      rfl
    have taken' : remove? ⟨queue.toList.eraseP fun urb => urb.id == id⟩ id' = some (other,
        ⟨(queue.toList.eraseP fun urb => urb.id == id).eraseP fun urb => urb.id == id'⟩) := by
      rw [remove?, there, hit']
      rfl
    exact .inr ⟨other, _, _, taken, taken', by simp [remove?, stays, hit, either]⟩

end Urb.Queue

namespace Device

variable {d e : Device} {urb : Urb}

theorem cancel_parked {id : Nat} {other : Urb} {rest : Urb.Queue}
    (taken : d.parked.remove? id = some (other, rest)) :
    d.cancel id = finishCancelled { d with parked := rest } other := by
  simp only [cancel, taken]

theorem cancel_deferred {reset : Urb} (missing : d.parked.remove? reset.id = none)
    (waits : d.pendingReset = some reset) :
    d.cancel reset.id = finishCancelled { d with pendingReset := none } reset := by
  simp only [cancel, missing, waits, if_true]

theorem cancel_nothing {id : Nat} (missing : d.parked.remove? id = none)
    (other : ∀ reset ∈ d.pendingReset, reset.id ≠ id) :
    d.cancel id = d.log (.nothingToCancel id) := by
  simp only [cancel, missing]
  cases waits : d.pendingReset with
  | none => rfl
  | some reset => simp [other reset waits]

def withParked (d : Device) (parked : Urb.Queue) : Device := { d with parked }

theorem withParked_unheeded (parked : Urb.Queue) : Unheeded (withParked · parked) where
  settings _ := rfl
  slot _ := rfl
  haltedIn _ := rfl
  haltedOut _ := rfl
  halts _ := rfl
  configuration _ := rfl
  descriptors _ := rfl
  pendingReset _ := rfl
  held _ _ _ := rfl
  halted _ _ := rfl
  configured _ _ := rfl
  log _ _ := rfl
  complain _ _ := rfl
  startCommand d t length := by
    unfold startCommand
    split <;> rfl

-- The devices are the same, except that the second parks `urb` as well.
def AlsoParks (urb : Urb) (d e : Device) : Prop :=
  ∃ parked, e = d.withParked parked ∧ parked.remove? urb.id = some (urb, d.parked)

theorem control_executing (executing : d.slot.isExecuting = true) (other : Urb) :
    (d.control other).1.parked = d.parked := by
  rcases control_cases d other with replied | ⟨e, task, -, resets⟩
  · exact replied.task.parked
  · have waits : (e.log .bulkOnlyReset).slot.isExecuting = true := by
      rw [log, task.slot, executing]
    rw [resets, ← task.parked]
    simp only [bulkOnlyReset, waits, if_true]
    split <;> rfl

theorem handle_executing (executing : d.slot.isExecuting = true) (address : UInt8) (other : Urb) :
    SameCommand d (d.handle address other).1 ∧ (d.handle address other).1.parked = d.parked := by
  obtain ⟨generation, slot⟩ : ∃ generation, d.slot = .executing generation := by
    cases slot : d.slot with
    | executing generation => exact ⟨generation, rfl⟩
    | vacant | held _ _ => simp [slot, Slot.isExecuting] at executing
  unfold handle
  split
  · exact ⟨control_sameCommand d other, control_executing executing other⟩
  · refine ⟨?_, (bulkOut_frame d other).parked⟩
    simp only [bulkOut, slot]
    split
    · exact complain_sameCommand d _
    split <;> exact complain_sameCommand d _
  · refine ⟨?_, (bulkIn_frame d other).parked⟩
    simp only [bulkIn, slot]
    split
    · exact complain_sameCommand d _
    split
    · exact complain_sameCommand d _
    · exact .refl d
  · exact ⟨complain_sameCommand d _, rfl⟩

theorem parked_resetAs (d : Device) (kind : Reset) : (d.resetAs kind).parked = .empty := by
  rw [resetAs, finishReset_eq]

structure StillParks {α : Type} (urb : Urb) (d : Device) (these those : Device × α) : Prop where
  also : AlsoParks urb these.1 those.1
  verdict : those.2 = these.2
  same : SameCommand d these.1

theorem apply_alsoParks (also : AlsoParks urb d e) {disposition : Disposition}
    (waits : (e.apply disposition).1.parked.first? urb.id = some urb) :
    StillParks urb d (d.apply disposition) (e.apply disposition) := by
  obtain ⟨parked, rfl, removed⟩ := also
  cases disposition with
  | complete other | stall other halting | hold other | fault =>
    exact ⟨⟨parked, rfl, removed⟩, rfl, apply_sameCommand d nofun⟩
  | park other =>
    refine ⟨⟨parked.append other, rfl, Urb.Queue.remove?_append removed other⟩, rfl, ?_⟩
    exact apply_sameCommand d nofun
  | reconfigure other value =>
    rw [apply, finish, parked_resetAs] at waits
    cases waits

theorem cancel_alsoParks (also : AlsoParks urb d e) {id : Nat}
    (waits : (e.cancel id).parked.first? urb.id = some urb) :
    AlsoParks urb (d.cancel id) (e.cancel id) := by
  obtain ⟨parked, rfl, removed⟩ := also
  by_cases same : id = urb.id
  · -- `urb` itself is taken then, so what is still parked is another transfer just like it.
    subst same
    have cancelled : (d.withParked parked).cancel urb.id = finishCancelled d urb :=
      cancel_parked (d := d.withParked parked) removed
    rw [cancelled] at waits ⊢
    obtain ⟨rest, removed'⟩ : ∃ rest, d.parked.remove? urb.id = some (urb, rest) :=
      Urb.Queue.first?_eq_some_iff.mp waits
    rw [cancel_parked removed']
    exact ⟨d.parked, rfl, removed'⟩
  rcases Urb.Queue.remove?_other removed same with ⟨missing, missing'⟩ |
    ⟨other, left, left', taken, taken', still⟩
  · by_cases deferred : ∃ reset, d.pendingReset = some reset ∧ reset.id = id
    · obtain ⟨reset, pending, rfl⟩ := deferred
      rw [cancel_deferred missing' pending,
        cancel_deferred (d := d.withParked parked) missing pending]
      exact ⟨parked, rfl, removed⟩
    · have other : ∀ reset ∈ d.pendingReset, reset.id ≠ id :=
        fun reset pending same => deferred ⟨reset, pending, same⟩
      rw [cancel_nothing missing' other, cancel_nothing (d := d.withParked parked) missing other]
      exact ⟨parked, rfl, removed⟩
  · rw [cancel_parked taken', cancel_parked (d := d.withParked parked) taken]
    exact ⟨left, rfl, still⟩

theorem operate_alsoParks (also : AlsoParks urb d e) (executing : d.slot.isExecuting = true)
    {operation : Device.Operation}
    (waits : (e.operate operation).1.parked.first? urb.id = some urb) :
    StillParks urb d (d.operate operation) (e.operate operation) := by
  have kept (looks : operation.looksOn = true) : SameCommand d (d.operate operation).1 :=
    (operate_task d looks).sameCommand
  cases operation with
  | dispatch address other =>
    obtain ⟨same, unparked⟩ := handle_executing executing address other
    obtain ⟨parked, rfl, removed⟩ := also
    have handled : (d.withParked parked).handle address other =
        (d.handle address other).map (withParked · parked) id :=
      (withParked_unheeded parked).handle d address fun f slot =>
        (withParked_unheeded parked).bulkOnlyReset_executing f (by rw [slot, executing]) other
    simp only [operate, dispatch, handled] at waits ⊢
    have still := apply_alsoParks ⟨parked, rfl, unparked ▸ removed⟩ waits
    exact ⟨still.also, congrArg Answer.dispatched still.verdict, same.trans still.same⟩
  | cancel id => exact ⟨cancel_alsoParks also waits, rfl, cancel_sameCommand d id⟩
  | reset =>
    rw [operate, reset, parked_resetAs] at waits
    cases waits
  | setConfiguration value =>
    obtain ⟨parked, rfl, removed⟩ := also
    by_cases again : d.configuration = value
    · have resets : (d.withParked parked).setConfiguration value =
          (d.withParked parked).resetAs (.configuration value) := if_pos again
      rw [operate, resets, parked_resetAs] at waits
      cases waits
    · have selects : d.setConfiguration value = { d with configuration := value } := if_neg again
      have selects' : (d.withParked parked).setConfiguration value =
          { d.withParked parked with configuration := value } := if_neg again
      rw [operate, operate, selects, selects']
      exact ⟨⟨parked, rfl, removed⟩, rfl, ⟨rfl, rfl, rfl, rfl, rfl, rfl⟩⟩
  | clearHalt address =>
    obtain ⟨parked, rfl, removed⟩ := also
    refine ⟨?_, rfl, kept rfl⟩
    simp only [operate, clearHalt]
    cases Pipe.ofAddress? address <;> exact ⟨parked, rfl, removed⟩
  | reap | poll =>
    obtain ⟨parked, rfl, removed⟩ := also
    refine ⟨?_, ?_, kept rfl⟩
    · simp only [operate, reap?, withParked]
      cases d.done.removeHead? <;> exact ⟨parked, rfl, removed⟩
    · simp only [operate, reap?, withParked]
      cases d.done.removeHead? <;> rfl
  | save =>
    obtain ⟨parked, rfl, removed⟩ := also
    have busy : d.save = .error .busy := if_pos executing
    have busy' : (d.withParked parked).save = .error .busy := if_pos executing
    rw [operate, operate, busy, busy']
    exact ⟨⟨parked, rfl, removed⟩, rfl, .refl d⟩
  | restore saved =>
    obtain ⟨parked, rfl, removed⟩ := also
    have refuses : ∃ cause, d.restore saved = .error cause ∧
        (d.withParked parked).restore saved = .error cause := by
      simp only [restore, withParked, executing, if_true]
      cases saved.slot with
      | error flaw => exact ⟨_, rfl, rfl⟩
      | ok slot => exact ⟨_, rfl, rfl⟩
    obtain ⟨cause, refused, refused'⟩ := refuses
    rw [operate, operate, refused, refused']
    exact ⟨⟨parked, rfl, removed⟩, rfl, .refl d⟩
  | describe =>
    obtain ⟨parked, rfl, removed⟩ := also
    exact ⟨⟨parked, rfl, removed⟩, congrArg Answer.text (describe_congr rfl rfl), kept rfl⟩
  | wakeUp | isHalted _ | isIdle | reapAll | stream _ | setDescriptors _ =>
    obtain ⟨parked, rfl, removed⟩ := also
    exact ⟨⟨parked, rfl, removed⟩, rfl, kept rfl⟩

theorem operate_executing (executing : d.slot.isExecuting = true)
    (operation : Device.Operation) : (d.operate operation).1.submissions = d.submissions := by
  cases operate_handover d operation with
  | kept same => exact same.submissions
  | issued t idle => simp [Slot.isExecuting_eq_isSome, idle] at executing
  | gaveUp generation slot idle next submissions => exact submissions

end Device

namespace System

open Device

variable {s : System} {e : Device} {urb : Urb}

structure Parks (urb : Urb) (s : System) (e : Device) : Prop where
  working : s.condition = .working
  executing : s.device.slot.isExecuting = true
  released : s.device.submissions = []
  also : AlsoParks urb s.device e

theorem turn_alsoParks (parks : s.Parks urb e) {turn : Turn}
    (working : (System.turn { s with device := e } turn).system.condition = .working)
    (waits : (System.turn { s with device := e } turn).system.device.parked.first? urb.id =
      some urb) :
    ∃ e', (s.turn turn).system.Parks urb e' ∧
      System.turn { s with device := e } turn = { s.turn turn with system.device := e' } := by
  obtain ⟨now, executing, released, also⟩ := parks
  obtain ⟨executing', released'⟩ : e.slot.isExecuting = true ∧ e.submissions = [] := by
    obtain ⟨parked, rfl, -⟩ := also
    exact ⟨executing, released⟩
  obtain ⟨operation, target⟩ := turn
  rcases turn_cases (s := { s with device := e }) now working with ⟨operation, rfl, fine, -⟩ |
    ⟨index, completion, command, rfl, found, -⟩ | ⟨index, completion, rfl, missing, -⟩
  · have nothing := (operate_executing executing operation).trans released
    have turned' := turn_operation (s := { s with device := e }) now fine
      ((operate_executing executing' operation).trans released') target
    rw [turned'] at waits
    have still := operate_alsoParks also executing waits
    have turned := turn_operation now (still.verdict ▸ fine) nothing target
    have executes : (s.device.operate operation).1.slot.isExecuting = true := by
      rw [Slot.isExecuting_eq_isSome, still.same.generation, ← Slot.isExecuting_eq_isSome,
        executing]
    obtain ⟨parked, rest, removed⟩ := still.also
    rw [turned, turned', still.verdict, rest]
    exact ⟨_, ⟨now, executes, rfl, parked, rfl, removed⟩, rfl⟩
  · by_cases own : e.slot = .executing command.generation
    · rw [turn_completing (s := { s with device := e }) found now released',
        (settle_concludes completion own).parked] at waits
      cases waits
    · obtain ⟨parked, rfl, removed⟩ := also
      have turned := turn_completing (s := s) found now released completion target
      have turned' := turn_completing (s := { s with device := s.device.withParked parked }) found
        now released completion target
      rw [settle_stale (d := s.device) completion own] at turned
      rw [settle_stale completion own] at turned'
      rw [turned, turned']
      exact ⟨_, ⟨now, executing, released, parked, rfl, removed⟩, rfl⟩
  · have turned : s.turn ⟨.complete index completion, target⟩ =
        { system := { s with target }, answer := .noCommand } :=
      perform_complete_missing (s := { s with target }) missing completion
    have turned' : System.turn { s with device := e } ⟨.complete index completion, target⟩ =
        { system := { s with target, device := e }, answer := .noCommand } :=
      perform_complete_missing (s := { s with target, device := e }) missing completion
    rw [turned, turned']
    exact ⟨e, ⟨now, executing, released, also⟩, rfl⟩

def StillParked (urb : Urb) (s : System) (turns : List Turn) : Prop :=
  ∀ earlier, earlier <+: turns → (s.play earlier).device.parked.first? urb.id = some urb

theorem play_alsoParks (parks : s.Parks urb e) {turns : List Turn}
    (waits : StillParked urb { s with device := e } turns)
    (working : (System.play { s with device := e } turns).condition = .working) :
    ∃ e', (s.play turns).Parks urb e' ∧
      System.play { s with device := e } turns = { s.play turns with device := e' } ∧
      System.said { s with device := e } turns = s.said turns := by
  induction turns generalizing s e with
  | nil => exact ⟨e, parks, rfl, rfl⟩
  | cons turn rest ih =>
    rw [play_cons] at working
    have first : (System.turn { s with device := e } turn).system.device.parked.first? urb.id =
        some urb := waits [turn] ⟨rest, rfl⟩
    have later : StillParked urb (System.turn { s with device := e } turn).system rest :=
      fun earlier front => waits (turn :: earlier) (List.prefix_cons_inj turn |>.mpr front)
    obtain ⟨e₁, parks₁, turned⟩ := turn_alsoParks parks (working_of_play working) first
    rw [turned] at working later
    obtain ⟨e', parks', played, said⟩ := ih parks₁ later working
    refine ⟨e', parks', ?_, ?_⟩
    · rw [play_cons, turned, played, play_cons]
    · rw [said_cons, turned, said, said_cons]
      rfl

theorem of_queued_read (working : s.condition = .working) {target : Target}
    (queued : (s.turn (.read target urb)).answer = .dispatched .queued) :
    urb.direction = .toHost ∧ s.device.halts.bulkIn = false := by
  have result := dispatch_of_answer working queued
  rw [dispatch_read] at result
  unfold bulkIn at result
  split at result
  · cases result
  next direction =>
    split at result
    · cases result
    next running => exact ⟨not_not.mp direction, Bool.eq_false_iff.mpr running⟩

theorem turn_read_parks (reached : s.Reached) (executing : s.device.slot.isExecuting = true)
    (absent : s.device.parked.contains urb.id = false) {target : Target}
    (queued : (s.turn (.read target urb)).answer = .dispatched .queued) :
    ∃ e, Parks urb { s with target } e ∧
      s.turn (.read target urb) =
        { system := { s with target, device := e }, answer := .dispatched .queued } := by
  have released := reached.released
  have silent := reached.told
  have working := reached.working
  obtain ⟨direction, running⟩ := of_queued_read working queued
  have turned := turn_read_parked working executing running released direction target
  refine ⟨s.device.withParked (s.device.parked.append urb), ?_, ?_⟩
  · exact ⟨working, executing, released, _, rfl, Urb.Queue.remove?_append_absent absent⟩
  · rw [turned, silent]
    simp only [withParked, released, silent]

end System

end BulkOnly
