import BulkOnly.Proofs.MoreParked
import BulkOnly.Proofs.Returned

set_option autoImplicit false

namespace BulkOnly

def Turn.AsksForReset (turn : Turn) : Prop :=
  ∃ address urb, turn.operation = .device (.dispatch address urb) ∧
    urb.Requests address .bulkOnlyReset

def Turn.cancel (target : Target) (id : Nat) : Turn := ⟨.device (.cancel id), target⟩

namespace Device

variable {d : Device} {urb : Urb}

def returning (d : Device) (urb : Urb) : Device :=
  { d with
    done := d.done.append (urb.finished .cancelled)
    statistics.cancelled := d.statistics.cancelled + 1 }

-- What is held under distinct ids can be cancelled only once.
theorem cancel_gone
    (distinct : ((d.parked.toList ++ d.pendingReset.toList).map Urb.id).Nodup) (id : Nat) :
    (d.cancel id).parked.contains id = false ∧
      ∀ reset ∈ (d.cancel id).pendingReset, reset.id ≠ id := by
  cases taken : d.parked.remove? id with
  | some found =>
    obtain ⟨urb, rest⟩ := found
    obtain ⟨before, after, whole, left, rfl, -⟩ := Urb.Queue.remove?_split taken
    have order : (d.parked.toList ++ d.pendingReset.toList).Perm
        (urb :: (rest.toList ++ d.pendingReset.toList)) := by
      rw [whole, left]
      exact List.perm_middle.append_right _
    obtain ⟨apart, -⟩ := List.nodup_cons.mp ((order.map Urb.id).nodup_iff.mp distinct)
    rw [cancel_parked taken]
    constructor
    · rw [finishCancelled, finish, Urb.Queue.contains]
      simp only [List.any_eq_false, beq_iff_eq]
      exact fun other member same =>
        apart (List.mem_map.mpr ⟨other, List.mem_append_left _ member, same⟩)
    · exact fun reset pending same =>
        apart (List.mem_map.mpr
          ⟨reset, List.mem_append_right _ (Option.mem_toList.mpr pending), same⟩)
  | none =>
    have absent := Urb.Queue.remove?_eq_none_iff.mp taken
    by_cases deferred : ∃ reset, d.pendingReset = some reset ∧ reset.id = id
    · obtain ⟨reset, pending, rfl⟩ := deferred
      rw [cancel_deferred taken pending]
      refine ⟨absent, ?_⟩
      intro other waits
      cases waits
    · have other : ∀ reset ∈ d.pendingReset, reset.id ≠ id :=
        fun reset pending same => deferred ⟨reset, pending, same⟩
      rw [cancel_nothing taken other]
      exact ⟨absent, other⟩

theorem handle_no_reset_waits (nothing : d.pendingReset = none) {address : UInt8}
    (other : ¬ urb.Requests address .bulkOnlyReset) :
    (d.handle address urb).1.pendingReset = none ∧
      ∀ reset, (d.handle address urb).2 ≠ .hold reset := by
  unfold handle
  split
  next reaches =>
    have replied := control_replied d fun asks => other ⟨reaches, asks⟩
    refine ⟨replied.task.pendingReset.trans nothing, fun reset held => ?_⟩
    have answers := replied.answers
    rw [held] at answers
    exact answers
  · refine ⟨(bulkOut_frame d urb).pendingReset.trans nothing, fun reset held => ?_⟩
    rcases bulkOut_decides d urb with ⟨halting, stalled⟩ | completed <;> simp_all
  · refine ⟨(bulkIn_frame d urb).pendingReset.trans nothing, fun reset held => ?_⟩
    rcases bulkIn_decides d urb with ⟨halting, stalled⟩ | ⟨bytes, completed⟩ | parked <;> simp_all
  · exact ⟨nothing, nofun⟩

theorem pendingReset_resetAs (d : Device) (kind : Reset) :
    (d.resetAs kind).pendingReset = none := by
  rw [resetAs, finishReset_eq]

theorem operate_no_reset_waits (nothing : d.pendingReset = none) {operation : Device.Operation}
    (other : ∀ address urb, operation = .dispatch address urb →
      ¬ urb.Requests address .bulkOnlyReset) :
    (d.operate operation).1.pendingReset = none := by
  cases operation with
  | dispatch address urb =>
    obtain ⟨still, held⟩ := handle_no_reset_waits nothing (other address urb rfl)
    simp only [operate, dispatch]
    cases decided : (d.handle address urb).2 with
    | hold reset => exact absurd decided (held reset)
    | reconfigure moved value => exact pendingReset_resetAs _ _
    | complete _ | stall _ _ | park _ | fault => exact still
  | cancel id =>
    rw [operate]
    cases taken : d.parked.remove? id with
    | some found =>
      rw [cancel_parked taken]
      exact nothing
    | none =>
      rw [cancel_nothing taken (by simp [nothing])]
      exact nothing
  | reset => exact pendingReset_resetAs _ _
  | setConfiguration value =>
    simp only [operate, setConfiguration]
    split
    · exact pendingReset_resetAs _ _
    · exact nothing
  | restore saved =>
    simp only [operate]
    split
    next restored =>
      obtain ⟨slot, -, -, rfl⟩ := restore_eq_ok_iff.mp restored
      exact nothing
    next => exact nothing
  | _ => exact (operate_task d rfl).pendingReset.trans nothing

end Device

namespace System

open Device

variable {s r : System} {urb : Urb}

theorem turn_cancel (working : s.condition = .working) (released : s.device.submissions = [])
    (target : Target) (id : Nat) :
    s.turn (.cancel target id) =
      { system := { s with
          target
          device := { s.device.cancel id with submissions := [], events := [] } }
        answer := .done, events := (s.device.cancel id).events } := by
  have fine : (s.device.operate (.cancel id)).2 ≠ .dispatched .faulted := nofun
  exact turn_operation working fine
    ((cancel_sameCommand s.device id).submissions.trans released) target

-- The later turns that do not reap, on `s` and on the same system with `urb` back as cancelled.
structure GoesOn (urb : Urb) (s r : System) (turns : List Turn) : Prop where
  said : r.said turns = s.said turns
  system : ∃ urbs, (s.play turns).device.done.toList = s.device.done.toList ++ urbs ∧
    r.play turns =
      { s.play turns with
        target := (r.play turns).target
        device := { (s.play turns).device with
          done := ⟨s.device.done.toList ++ urb.finished .cancelled :: urbs⟩
          statistics.cancelled := (s.play turns).device.statistics.cancelled + 1 } }

theorem goes_on (urb : Urb) (s : System) (target : Target) {turns : List Turn}
    (leaves : ∀ turn ∈ turns, turn.reaps = false) :
    GoesOn urb s { s with target, device := s.device.returning urb } turns := by
  let bare : System :=
    { s with device := { s.device with done := .empty, statistics.cancelled := 0 } }
  have plain : s = bare.withReturned s.device.done.toList s.device.statistics.cancelled := by
    simp [bare, System.withReturned, Device.withReturned, Urb.Queue.empty]
  have more : { s with target, device := s.device.returning urb } =
      System.withReturned { bare with target } (s.device.done.toList ++ [urb.finished .cancelled])
        (s.device.statistics.cancelled + 1) := by
    simp [bare, System.withReturned, Device.withReturned, returning, Urb.Queue.empty,
      Urb.Queue.append]
  obtain ⟨played, said⟩ :=
    play_withReturned bare s.device.done.toList s.device.statistics.cancelled leaves
  obtain ⟨played', said'⟩ := play_withReturned { bare with target }
    (s.device.done.toList ++ [urb.finished .cancelled]) (s.device.statistics.cancelled + 1) leaves
  rw [← plain] at played said
  rw [← more] at played' said'
  obtain ⟨target', retargeted⟩ := play_retargeted bare target turns
  constructor
  case said => rw [said', said, said_retargeted]
  case system =>
    refine ⟨(bare.play turns).device.done.toList, ?_, ?_⟩
    · rw [played]
      rfl
    · rw [played', retargeted, played]
      simp [System.withReturned, Device.withReturned, Nat.add_right_comm]

-- A run with a read that is parked and cancelled, and the run without the two.
structure SameWithout (urb : Urb) (s : System) (turns : List Turn) (sent cancelled : Turn) :
    Prop where
  system : s.play (sent :: turns ++ [cancelled]) =
    { s.play turns with
      target := cancelled.target, device := (s.play turns).device.returning urb }
  said : s.said (sent :: turns ++ [cancelled]) =
    (.dispatched .queued, [], []) :: s.said turns ++ [(.done, [], [.cancelling urb.id])]
  later (turns' : List Turn) : (∀ turn ∈ turns', turn.reaps = false) →
    GoesOn urb (s.play turns) (s.play (sent :: turns ++ [cancelled])) turns'

theorem read_cancelled_unnoticed (reached : s.Reached)
    (executing : s.device.slot.isExecuting = true)
    (absent : s.device.parked.contains urb.id = false) {target : Target}
    (queued : (s.turn (.read target urb)).answer = .dispatched .queued) {turns : List Turn}
    (waits : StillParked urb (s.turn (.read target urb)).system turns)
    (working : (s.play (.read target urb :: turns)).condition = .working) (target' : Target) :
    s.SameWithout urb turns (.read target urb) (.cancel target' urb.id) := by
  obtain ⟨e, parks, sent⟩ := turn_read_parks reached executing absent queued
  rw [play_cons, sent] at working
  rw [sent] at waits
  obtain ⟨e', parks', played, said⟩ := play_alsoParks parks waits working
  rw [said_retargeted] at said
  obtain ⟨target'', retargeted⟩ := play_retargeted s target turns
  rw [retargeted] at played parks'
  obtain ⟨working', executing', released', parked, rfl, removed⟩ := parks'
  have silent : (s.play turns).device.events = [] := (reached.play working').told
  have cancelled := turn_cancel (s := { s.play turns with
    target := target'', device := (s.play turns).device.withParked parked }) working' released'
    target' urb.id
  rw [cancel_parked (d := (s.play turns).device.withParked parked) removed] at cancelled
  have system : s.play (.read target urb :: turns ++ [.cancel target' urb.id]) =
      { s.play turns with target := target', device := (s.play turns).device.returning urb } := by
    rw [List.cons_append, play_cons, sent, play_append, played, play_cons, play_nil, cancelled]
    simp only [finishCancelled, finish, withParked, returning, ← silent, ← released']
  constructor
  case system => exact system
  case said =>
    rw [List.cons_append, said_cons, sent, said_append, said, played, said_cons, cancelled]
    have events : (finishCancelled (s.play turns).device urb).events = [.cancelling urb.id] := by
      rw [finishCancelled, finish, silent, List.nil_append]
    exact congrArg (fun events => _ :: (s.said turns ++ [(Answer.done, [], events)])) events
  case later =>
    intro turns' leaves
    rw [system]
    exact goes_on urb (s.play turns) target' leaves

def CancelsNothing (s : System) (id : Nat) : Prop :=
  ∀ target, s.turn (.cancel target id) =
    { system := { s with target }, answer := .done, events := [.nothingToCancel id] }

theorem cancels_nothing (reached : s.Reached) {id : Nat}
    (absent : s.device.parked.contains id = false)
    (other : ∀ reset ∈ s.device.pendingReset, reset.id ≠ id) : s.CancelsNothing id := by
  intro target
  have released := reached.released
  have silent := reached.told
  have cleared := reached.cleared
  have working := reached.working
  have missing := Urb.Queue.remove?_eq_none_iff.mpr absent
  rw [turn_cancel working released, cancel_nothing missing other]
  simp only [log, silent, cleared, List.nil_append]

theorem cancelled_once (reached : s.Reached)
    (distinct : ((s.device.parked.toList ++ s.device.pendingReset.toList).map Urb.id).Nodup)
    (target : Target) (id : Nat) : (s.turn (.cancel target id)).system.CancelsNothing id := by
  have released := reached.released
  have working := reached.working
  have turned := turn_cancel working released target id
  have reached' : (s.turn (.cancel target id)).system.Reached := by
    change (s.play [.cancel target id]).Reached
    refine reached.play ?_
    rw [play_cons, play_nil, turned]
    exact working
  obtain ⟨absent, other⟩ := cancel_gone distinct id
  refine cancels_nothing reached' ?_ ?_
  · rw [turned]
    exact absent
  · rw [turned]
    exact other

theorem durable_no_reset_waits :
    Durable (fun d : Device => d.pendingReset = none) (fun _ => True) where
  told _ _ nothing := nothing
  drained _ nothing := nothing
  issued _ _ _ _ := trivial
  ended _ command completion _ nothing := (settle_no_reset_waits nothing command completion).1

theorem play_no_reset_waits (nothing : s.device.pendingReset = none) {turns : List Turn}
    (other : ∀ turn ∈ turns, ¬ turn.AsksForReset)
    (working : (s.play turns).condition = .working) :
    (s.play turns).device.pendingReset = none := by
  induction turns generalizing s with
  | nil => exact nothing
  | cons turn rest ih =>
    obtain ⟨first, others⟩ := List.forall_mem_cons.mp other
    have after := working_of_play (s := (s.turn turn).system) working
    have still : (s.turn turn).system.device.pendingReset = none := by
      refine (durable_no_reset_waits.turn (working_of_turn after) after nothing
        (fun _ _ => trivial) ?_).1
      intro operation same
      refine operate_no_reset_waits nothing fun address urb dispatches requests => ?_
      exact first ⟨address, urb, by rw [same, dispatches], requests⟩
    exact ih still others working

theorem completion_resets_nothing (reached : s.Reached) {reset : Urb}
    (waits : s.device.pendingReset = some reset)
    (absent : s.device.parked.contains reset.id = false) {target : Target} {turns : List Turn}
    (other : ∀ turn ∈ turns, ¬ turn.AsksForReset)
    (working : (s.play (.cancel target reset.id :: turns)).condition = .working) (index : Nat)
    (completion : Completion) (target' : Target) :
    ((s.play (.cancel target reset.id :: turns)).turn
        ⟨.complete index completion, target'⟩).system.device.statistics.resets =
      (s.play (.cancel target reset.id :: turns)).device.statistics.resets := by
  have released := (reached.play working).released
  have before := reached.released
  have now := reached.working
  have nothing : (s.play (.cancel target reset.id :: turns)).device.pendingReset = none := by
    have cancelled : (s.turn (.cancel target reset.id)).system.device.pendingReset = none := by
      rw [turn_cancel now before, cancel_deferred (Urb.Queue.remove?_eq_none_iff.mpr absent) waits]
      rfl
    exact play_no_reset_waits cancelled other working
  cases found : (s.play (.cancel target reset.id :: turns)).waiting[index]? with
  | none =>
    have missing := perform_complete_missing
      (s := { s.play (.cancel target reset.id :: turns) with target := target' }) found completion
    rw [turn, missing]
  | some command =>
    rw [turn_completing found working released]
    exact (settle_no_reset_waits nothing command completion).2

structure CancelsCleanly (s : System) : Prop where
  unnoticed {urb : Urb} {target : Target} {turns : List Turn} (target' : Target) :
    s.device.slot.isExecuting = true → s.device.parked.contains urb.id = false →
      (s.turn (.read target urb)).answer = .dispatched .queued →
      StillParked urb (s.turn (.read target urb)).system turns →
      (s.play (.read target urb :: turns)).condition = .working →
      s.SameWithout urb turns (.read target urb) (.cancel target' urb.id)
  nothing {id : Nat} : s.device.parked.contains id = false →
    (∀ reset ∈ s.device.pendingReset, reset.id ≠ id) → s.CancelsNothing id
  once (target : Target) (id : Nat) :
    ((s.device.parked.toList ++ s.device.pendingReset.toList).map Urb.id).Nodup →
      (s.turn (.cancel target id)).system.CancelsNothing id
  reset (reset : Urb) (target : Target) {turns : List Turn} (index : Nat)
    (completion : Completion) (target' : Target) : s.device.pendingReset = some reset →
      s.device.parked.contains reset.id = false → (∀ turn ∈ turns, ¬ turn.AsksForReset) →
      (s.play (.cancel target reset.id :: turns)).condition = .working →
      ((s.play (.cancel target reset.id :: turns)).turn
          ⟨.complete index completion, target'⟩).system.device.statistics.resets =
        (s.play (.cancel target reset.id :: turns)).device.statistics.resets

theorem cancels_cleanly (reached : s.Reached) : s.CancelsCleanly where
  unnoticed target' executing absent queued waits working :=
    read_cancelled_unnoticed reached executing absent queued waits working target'
  nothing absent other := cancels_nothing reached absent other
  once target id distinct := cancelled_once reached distinct target id
  reset _ _ _ index completion target' waits absent other working :=
    completion_resets_nothing reached waits absent other working index completion target'

def resetWaits : List Turn :=
  [sendReadSix 1, readBulk 2 4, ⟨.device (.dispatch 0x00 (.control 3 resetSetup [])), .holds⟩]

theorem cancels_cleanly_resetWaits :
    ((create {} "lun0" .holds).play resetWaits).Reached ∧
      ((create {} "lun0" .holds).play resetWaits).SameWithout (.bulkIn 4 8)
        [readBulk 5 13, sendReadSix 6] (.read .holds (.bulkIn 4 8)) (.cancel .holds 4) ∧
      ((create {} "lun0" .holds).play resetWaits).CancelsNothing 9 ∧
      (((create {} "lun0" .holds).play resetWaits).turn
        (.cancel .holds 2)).system.CancelsNothing 2 ∧
      ((((create {} "lun0" .holds).play resetWaits).play [.cancel .holds 3, readBulk 4 13]).turn
          ⟨.complete 0 {}, .holds⟩).system.device.statistics.resets = 0 := by
  have reached : ((create {} "lun0" .holds).play resetWaits).Reached :=
    ⟨{}, "lun0", .holds, resetWaits, rfl, by decide⟩
  have waits : StillParked (.bulkIn 4 8)
      (((create {} "lun0" .holds).play resetWaits).turn (.read .holds (.bulkIn 4 8))).system
      [readBulk 5 13, sendReadSix 6] := by
    intro earlier front
    rcases List.prefix_cons_iff.mp front with rfl | ⟨rest, rfl, front'⟩
    · decide
    rcases List.prefix_cons_iff.mp front' with rfl | ⟨rest', rfl, front''⟩
    · decide
    · rw [List.prefix_nil.mp front'']
      decide
  have other : ∀ turn ∈ [readBulk 4 13], ¬ turn.AsksForReset := by
    rintro turn member ⟨address, urb, same, requests⟩
    rw [List.mem_singleton.mp member] at same
    cases same
    exact absurd requests.reaches (by decide)
  have clean := cancels_cleanly reached
  refine ⟨reached, ?_, clean.nothing (by decide) (by decide), clean.once .holds 2 (by decide), ?_⟩
  · exact clean.unnoticed .holds (by decide) (by decide) (by decide) waits (by decide)
  · have unchanged := clean.reset (.control 3 resetSetup []) .holds 0 {} .holds (by decide)
      (by decide) other (by decide)
    exact unchanged.trans (by decide)

end System

end BulkOnly
