import BulkOnly.Proofs.Quiet
import BulkOnly.Proofs.Run

set_option autoImplicit false

namespace BulkOnly

namespace System

def givenUp (s : System) (turn : Turn) : List Nat :=
  if s.device.statistics.abandoned < (s.turn turn).system.device.statistics.abandoned then
    s.device.slot.generation?.toList
  else []

def abandoned (s : System) : List Turn → List Nat
  | [] => []
  | turn :: rest => s.givenUp turn ++ (s.turn turn).system.abandoned rest

theorem abandoned_append (s : System) (earlier later : List Turn) :
    s.abandoned (earlier ++ later) = s.abandoned earlier ++ (s.play earlier).abandoned later := by
  induction earlier generalizing s with
  | nil => rfl
  | cons turn rest ih => simp only [List.cons_append, abandoned, play_cons, ih, List.append_assoc]

end System

namespace Device

structure Ledger (d : Device) (waiting submitted : List Command) (abandoned : List Nat) : Prop where
  distinct : (waiting.map Command.generation).Nodup
  below : ∀ command ∈ waiting, command.generation < d.nextGeneration
  known : ∀ generation ∈ abandoned, generation < d.nextGeneration
  current : (waiting.map Command.generation).filter (· ∉ abandoned) = d.slot.generation?.toList
  counted : abandoned.length = d.statistics.abandoned
  balance : waiting.length + d.statistics.reclaimed =
    d.slot.generation?.toList.length + d.statistics.abandoned
  commands : d.statistics.commands = d.nextGeneration
  numbered : submitted.map Command.generation = List.range d.nextGeneration
  released : d.submissions = []

namespace Ledger

variable {d e : Device} {waiting submitted : List Command} {abandoned : List Nat}

theorem created (settings : Settings) (location : String) :
    Ledger { settings, location } [] [] [] where
  distinct := List.nodup_nil
  below := nofun
  known := nofun
  current := rfl
  counted := rfl
  balance := rfl
  commands := rfl
  numbered := rfl
  released := rfl

theorem kept (ledger : Ledger d waiting submitted abandoned) (same : SameCommand d e) :
    Ledger e waiting submitted abandoned := by
  obtain ⟨distinct, below, known, current, counted, balance, commands, numbered, released⟩ := ledger
  rw [← same.next] at below known numbered
  rw [← same.generation] at current balance
  rw [← same.abandoned] at counted balance
  rw [← same.reclaimed] at balance
  rw [← same.commands, ← same.next] at commands
  rw [← same.submissions] at released
  exact ⟨distinct, below, known, current, counted, balance, commands, numbered, released⟩

-- The next generation is larger than any other, so the new command is not mistaken for an old one.
theorem issued (ledger : Ledger d waiting submitted abandoned) (idle : d.slot.generation? = none)
    (slot : e.slot = .executing d.nextGeneration) (next : e.nextGeneration = d.nextGeneration + 1)
    (commands : e.statistics.commands = d.statistics.commands + 1)
    (same : e.statistics.abandoned = d.statistics.abandoned)
    (reclaimed : e.statistics.reclaimed = d.statistics.reclaimed) (released : e.submissions = [])
    (t : Transaction) :
    Ledger e (waiting ++ [⟨d.nextGeneration, t⟩]) (submitted ++ [⟨d.nextGeneration, t⟩])
      abandoned where
  distinct := by
    have fresh : d.nextGeneration ∉ waiting.map Command.generation := by
      intro member
      obtain ⟨command, old, same⟩ := List.mem_map.mp member
      have bound := ledger.below command old
      omega
    rw [List.map_append]
    refine List.nodup_append.mpr ⟨ledger.distinct, List.pairwise_singleton _ _, ?_⟩
    intro old member new only
    rw [List.mem_singleton.mp only]
    rintro rfl
    exact fresh member
  below := by
    intro command member
    rw [next]
    rcases List.mem_append.mp member with old | new
    · exact Nat.lt_succ_of_lt (ledger.below command old)
    · rw [List.mem_singleton.mp new]
      exact Nat.lt_succ_self _
  known := by
    intro generation member
    rw [next]
    exact Nat.lt_succ_of_lt (ledger.known generation member)
  current := by
    have fresh : d.nextGeneration ∉ abandoned := fun member =>
      Nat.lt_irrefl _ (ledger.known _ member)
    rw [List.map_append, List.filter_append, ledger.current, idle, slot]
    simp [fresh, Slot.generation?]
  counted := by rw [same, ledger.counted]
  balance := by
    have balance := ledger.balance
    rw [idle] at balance
    rw [slot, same, reclaimed]
    simp only [Slot.generation?, Option.toList, List.length_append, List.length_cons,
      List.length_nil] at balance ⊢
    omega
  commands := by rw [commands, next, ledger.commands]
  numbered := by rw [List.map_append, ledger.numbered, next, List.range_succ]; rfl
  released := released

theorem executing_own (ledger : Ledger d waiting submitted abandoned) {generation : Nat}
    (executing : d.slot = .executing generation) :
    generation ∈ waiting.map Command.generation ∧ generation ∉ abandoned := by
  have current := ledger.current
  rw [executing] at current
  have member : generation ∈ (waiting.map Command.generation).filter (· ∉ abandoned) := by
    rw [current]
    exact List.mem_singleton.mpr rfl
  obtain ⟨present, own⟩ := List.mem_filter.mp member
  exact ⟨present, of_decide_eq_true own⟩

theorem gaveUp (ledger : Ledger d waiting submitted abandoned) {generation : Nat}
    (slot : d.slot = .executing generation) (idle : e.slot.generation? = none)
    (next : e.nextGeneration = d.nextGeneration) (submissions : e.submissions = d.submissions)
    (commands : e.statistics.commands = d.statistics.commands)
    (more : e.statistics.abandoned = d.statistics.abandoned + 1)
    (reclaimed : e.statistics.reclaimed = d.statistics.reclaimed) :
    Ledger e waiting submitted (abandoned ++ [generation]) where
  distinct := ledger.distinct
  below := by
    rw [next]
    exact ledger.below
  known := by
    obtain ⟨command, present, same⟩ := List.mem_map.mp (ledger.executing_own slot).1
    rw [next]
    intro other given
    rcases List.mem_append.mp given with old | new
    · exact ledger.known other old
    · rw [List.mem_singleton.mp new, ← same]
      exact ledger.below command present
  current := by
    have both : (waiting.map Command.generation).filter (· ∉ abandoned ++ [generation]) =
        ((waiting.map Command.generation).filter (· ∉ abandoned)).filter (· ≠ generation) := by
      rw [List.filter_filter]
      refine List.filter_congr fun other _ => ?_
      simp [not_or, Bool.and_comm]
    rw [both, ledger.current, slot, idle]
    simp [Slot.generation?]
  counted := by
    rw [more, List.length_append, ledger.counted]
    rfl
  balance := by
    have balance := ledger.balance
    rw [slot] at balance
    rw [idle, more, reclaimed]
    simp only [Slot.generation?, Option.toList, List.length_cons, List.length_nil] at balance ⊢
    omega
  commands := by rw [commands, next, ledger.commands]
  numbered := by rw [next, ledger.numbered]
  released := by rw [submissions, ledger.released]

variable {before after : List Command} {command : Command}

theorem abandoned_of_ne (ledger : Ledger d waiting submitted abandoned)
    (present : command ∈ waiting) (other : d.slot ≠ .executing command.generation) :
    command.generation ∈ abandoned := by
  by_contra own
  have member : command.generation ∈ (waiting.map Command.generation).filter (· ∉ abandoned) :=
    List.mem_filter.mpr ⟨List.mem_map_of_mem present, by simpa using own⟩
  rw [ledger.current, Option.mem_toList] at member
  exact other (Slot.generation?_eq_some_iff.mp member)

theorem withdrawn_below (ledger : Ledger d (before ++ command :: after) submitted abandoned) :
    ∀ other ∈ before ++ after, other.generation < d.nextGeneration := by
  intro other member
  refine ledger.below other ?_
  rw [List.mem_append] at member
  rw [List.mem_append, List.mem_cons]
  exact member.imp_right .inr

theorem withdrawn_distinct (ledger : Ledger d (before ++ command :: after) submitted abandoned) :
    ((before ++ after).map Command.generation).Nodup := by
  have shorter : (before ++ after).Sublist (before ++ command :: after) :=
    (List.Sublist.refl before).append (List.sublist_cons_self command after)
  exact (shorter.map Command.generation).nodup ledger.distinct

theorem ended_executing (ledger : Ledger d (before ++ command :: after) submitted abandoned)
    (executing : d.slot = .executing command.generation) (concluded : Concluded d e) :
    Ledger e (before ++ after) submitted abandoned := by
  have current := ledger.current
  rw [executing, List.map_append, List.filter_append, List.map_cons] at current
  have own := (ledger.executing_own executing).2
  have nothing : (before.map Command.generation).filter (· ∉ abandoned) = [] ∧
      (after.map Command.generation).filter (· ∉ abandoned) = [] := by
    have single := congrArg List.length current
    rw [List.filter_cons_of_pos (by simpa using own)] at single
    simp only [List.length_append, List.length_cons, Slot.generation?, Option.toList,
      List.length_nil] at single
    exact ⟨List.eq_nil_of_length_eq_zero (by omega), List.eq_nil_of_length_eq_zero (by omega)⟩
  refine ⟨ledger.withdrawn_distinct, ?_, ?_, ?_, ?_, ?_, ?_, ?_, ?_⟩
  · rw [concluded.next]
    exact ledger.withdrawn_below
  · rw [concluded.next]
    exact ledger.known
  · rw [List.map_append, List.filter_append, nothing.1, nothing.2, concluded.calm.idle]
    rfl
  · rw [concluded.abandoned, ledger.counted]
  · have balance := ledger.balance
    rw [executing] at balance
    rw [concluded.calm.idle, concluded.reclaimed, concluded.abandoned]
    simp only [Slot.generation?, Option.toList, List.length_append, List.length_cons,
      List.length_nil] at balance ⊢
    omega
  · rw [concluded.commands, concluded.next, ledger.commands]
  · rw [concluded.next, ledger.numbered]
  · rw [concluded.submissions, ledger.released]

theorem ended_stale (ledger : Ledger d (before ++ command :: after) submitted abandoned)
    (stale : d.slot ≠ .executing command.generation) :
    Ledger (d.reclaimed command.generation) (before ++ after) submitted abandoned := by
  have given := ledger.abandoned_of_ne (List.mem_append_right before List.mem_cons_self) stale
  have current : ((before ++ after).map Command.generation).filter (· ∉ abandoned) =
      d.slot.generation?.toList := by
    rw [← ledger.current, List.map_append, List.map_append, List.filter_append, List.filter_append,
      List.map_cons, List.filter_cons_of_neg (by simpa using given)]
  refine ⟨ledger.withdrawn_distinct, ledger.withdrawn_below, ledger.known, current,
    ledger.counted, ?_, ledger.commands, ledger.numbered, ledger.released⟩
  have balance := ledger.balance
  simp only [List.length_append, List.length_cons] at balance ⊢
  change _ + (d.statistics.reclaimed + 1) =
    d.slot.generation?.toList.length + d.statistics.abandoned
  omega

theorem ended (ledger : Ledger d (before ++ command :: after) submitted abandoned)
    (completion : Completion) :
    Ledger (d.settle command completion) (before ++ after) submitted abandoned := by
  by_cases executing : d.slot = .executing command.generation
  · exact ledger.ended_executing executing (settle_concludes completion executing)
  · rw [settle_stale completion executing]
    have heard : Ledger { d with events := d.events ++ completion.events command }
        (before ++ command :: after) submitted abandoned :=
      ledger.kept ⟨rfl, rfl, rfl, rfl, rfl, rfl⟩
    exact heard.ended_stale executing

theorem executing_iff (ledger : Ledger d waiting submitted abandoned) (generation : Nat) :
    d.slot = .executing generation ↔
      waiting.countP (fun command => command.generation = generation ∧
        command.generation ∉ abandoned) = 1 := by
  have count : waiting.countP (fun command => command.generation = generation ∧
      command.generation ∉ abandoned) = d.slot.generation?.toList.count generation := by
    rw [← ledger.current, List.count, List.countP_filter, List.countP_map]
    refine List.countP_congr fun command _ => ?_
    simp
  rw [count, ← Slot.generation?_eq_some_iff]
  cases d.slot.generation? with
  | none => simp
  | some other => by_cases same : other = generation <;> simp [same]

theorem executing_waits (ledger : Ledger d waiting submitted abandoned) {generation : Nat}
    (executing : d.slot = .executing generation) :
    waiting.countP (fun command => command.generation = generation) = 1 := by
  have once : (waiting.map Command.generation).count generation = 1 :=
    ledger.distinct.count.trans (if_pos (ledger.executing_own executing).1)
  rw [← once, List.count, List.countP_map]
  refine List.countP_congr fun command _ => ?_
  simp

end Ledger

end Device

namespace System

open Device

theorem release_single {s : System} {command : Command}
    (single : s.device.submissions = [command]) (answer : Answer) :
    (s.release answer).submitted = [command] ∧
      (s.release answer).system =
        { submit { s with device.submissions := [] } command with
          device.events := [] } := by
  simp [release, single]

theorem submit_ledger {s : System} {command : Command} {submitted : List Command}
    {abandoned : List Nat}
    (ledger : Ledger s.device (s.waiting ++ [command]) submitted abandoned) :
    Ledger (s.submit command).device (s.submit command).waiting submitted abandoned ∧
      (s.submit command).device.statistics.abandoned = s.device.statistics.abandoned := by
  have logged (event : Event) : Ledger (s.device.log event) (s.waiting ++ [command]) submitted
      abandoned := ledger.kept (log_sameCommand s.device event)
  simp only [submit]
  split
  · exact ⟨logged _, rfl⟩
  next completion _ =>
    have ended := (logged (.submitting command.generation command.block command.direction
      command.length)).ended completion
    rw [List.append_nil] at ended
    refine ⟨ended, ?_⟩
    rw [← ended.counted, ledger.counted]

theorem turn_ledger {s : System} {turn : Turn} {submitted : List Command} {abandoned : List Nat}
    (ledger : Ledger s.device s.waiting submitted abandoned) (before : s.condition = .working)
    (after : (s.turn turn).system.condition = .working) :
    Ledger (s.turn turn).system.device (s.turn turn).system.waiting
      (submitted ++ (s.turn turn).submitted) (abandoned ++ s.givenUp turn) := by
  rcases turn_cases before after with ⟨operation, -, -, report⟩ |
    ⟨index, completion, command, -, found, report⟩ | ⟨index, completion, -, -, report⟩
  · simp only [givenUp]
    cases operate_handover s.device operation with
    | kept same =>
      have nothing : (s.device.operate operation).1.submissions = [] := by
        rw [same.submissions, ledger.released]
      rw [release_nothing nothing] at report
      rw [report, if_neg (by simp [same.abandoned]), List.append_nil, List.append_nil]
      exact (ledger.kept same).kept ⟨rfl, rfl, nothing.symm, rfl, rfl, rfl⟩
    | issued t idle slot next submissions commands kept reclaimed =>
      rw [ledger.released, List.nil_append] at submissions
      obtain ⟨submitted_eq, system_eq⟩ := release_single
        (s := { s with target := turn.target, device := (s.device.operate operation).1 })
        submissions (s.device.operate operation).2
      have issued := ledger.issued (e := { (s.device.operate operation).1 with submissions := [] })
        idle slot next commands kept reclaimed rfl t
      obtain ⟨ended, same⟩ := submit_ledger
        (s := { s with
          target := turn.target
          device := { (s.device.operate operation).1 with submissions := [] } }) issued
      rw [report, submitted_eq, system_eq, if_neg, List.append_nil]
      · exact ended.kept ⟨rfl, rfl, rfl, rfl, rfl, rfl⟩
      · dsimp only
        rw [same]
        dsimp only
        rw [kept]
        exact Nat.lt_irrefl _
    | gaveUp generation slot idle next submissions commands more reclaimed =>
      have nothing : (s.device.operate operation).1.submissions = [] := by
        rw [submissions, ledger.released]
      rw [release_nothing nothing] at report
      rw [report, if_pos (by simp [more]), List.append_nil, slot]
      have gaveUp := ledger.gaveUp slot idle next submissions commands more reclaimed
      exact gaveUp.kept ⟨rfl, rfl, nothing.symm, rfl, rfl, rfl⟩
  · obtain ⟨short, same⟩ := List.getElem?_eq_some_iff.mp found
    have split : s.waiting = s.waiting.take index ++ command :: s.waiting.drop (index + 1) := by
      rw [← same, List.getElem_cons_drop, List.take_append_drop]
    have rest : s.waiting.eraseIdx index = s.waiting.take index ++ s.waiting.drop (index + 1) :=
      List.eraseIdx_eq_take_drop_succ _ _
    rw [split] at ledger
    have ended := ledger.ended completion
    rw [← rest] at ended
    rw [release_nothing ended.released] at report
    have kept : ¬ s.device.statistics.abandoned <
        (s.turn turn).system.device.statistics.abandoned := by
      rw [report]
      dsimp only
      rw [← ended.counted, ledger.counted]
      exact Nat.lt_irrefl _
    rw [givenUp, if_neg kept, report, List.append_nil, List.append_nil]
    exact ended.kept ⟨rfl, rfl, ended.released.symm, rfl, rfl, rfl⟩
  · rw [givenUp, report, if_neg (Nat.lt_irrefl _), List.append_nil, List.append_nil]
    exact ledger

theorem play_ledger (settings : Settings) (location : String) (target : Target) (turns : List Turn)
    (working : ((create settings location target).play turns).condition = .working) :
    Ledger ((create settings location target).play turns).device
      ((create settings location target).play turns).waiting
      ((create settings location target).submitted turns)
      ((create settings location target).abandoned turns) := by
  refine play_induction (fun turns s => Ledger s.device s.waiting
    ((create settings location target).submitted turns)
    ((create settings location target).abandoned turns)) ?_ ?_ turns working
  · exact .created settings location
  · intro turns turn ledger before after
    have next := turn_ledger ledger before after
    rw [submitted_append, abandoned_append]
    simpa only [submitted, reports, abandoned, List.flatMap_cons, List.flatMap_nil,
      List.append_nil] using next

end System

-- Where the commands of a device are between operations, after a run that has `submitted` some
-- and in which resets have given up the `abandoned` ones.
structure Accounted (s : System) (submitted : List Command) (abandoned : List Nat) : Prop where
  distinct : (s.waiting.map Command.generation).Nodup
  below : ∀ command ∈ s.waiting, command.generation < s.device.nextGeneration
  executing_iff (generation : Nat) : s.device.slot = .executing generation ↔
    s.waiting.countP (fun command => command.generation = generation ∧
      command.generation ∉ abandoned) = 1
  executing_waits (generation : Nat) : s.device.slot = .executing generation →
    s.waiting.countP (fun command => command.generation = generation) = 1
  others_abandoned : ∀ command ∈ s.waiting, s.device.slot ≠ .executing command.generation →
    command.generation ∈ abandoned
  held_at_rest (stage : Stage) : s.device.slot.stage? = some stage →
    if s.device.slot.isExecuting then stage = .executing
    else stage ∈ [.ready, .dataFromHost, .dataToHost, .status]
  outstanding : s.waiting.length + s.device.statistics.reclaimed =
    (if s.device.slot.isExecuting then 1 else 0) + s.device.statistics.abandoned
  abandoned_count : s.device.statistics.abandoned = abandoned.length
  commands_count : s.device.statistics.commands = s.device.nextGeneration
  next_generation : s.device.nextGeneration = submitted.length
  released : s.device.submissions = []
  nothing_waits : s.device.slot.isExecuting = false →
    s.device.parked = .empty ∧ s.device.pendingReset = none

namespace System

theorem commands_accounted (settings : Settings) (location : String) (target : Target)
    (turns : List Turn) (genuine : ∀ turn ∈ turns, turn.Genuine)
    (working : ((create settings location target).play turns).condition = .working) :
    Accounted ((create settings location target).play turns)
      ((create settings location target).submitted turns)
      ((create settings location target).abandoned turns) := by
  have quiet := play_quiet working
  have ledger := play_ledger settings location target turns working
  generalize (create settings location target).play turns = s at quiet ledger
  generalize (create settings location target).submitted turns = submitted at ledger
  generalize (create settings location target).abandoned turns = abandoned at ledger
  constructor
  case distinct => exact ledger.distinct
  case below => exact ledger.below
  case executing_iff => exact ledger.executing_iff
  case executing_waits => exact fun generation executing => ledger.executing_waits executing
  case others_abandoned => exact fun command present => ledger.abandoned_of_ne present
  case held_at_rest =>
    intro stage claimed
    cases slot : s.device.slot with
    | vacant => simp [slot, Slot.stage?] at claimed
    | executing generation =>
      rw [slot] at claimed
      exact (Option.some.inj claimed).symm
    | held phase t =>
      rw [slot] at claimed
      cases Option.some.inj claimed
      cases phase <;> simp [Slot.isExecuting, Phase.stage]
  case outstanding =>
    rw [ledger.balance]
    cases s.device.slot <;> rfl
  case abandoned_count => exact ledger.counted.symm
  case commands_count => exact ledger.commands
  case next_generation =>
    have numbered := congrArg List.length ledger.numbered
    rw [List.length_map, List.length_range] at numbered
    exact numbered.symm
  case released => exact ledger.released
  case nothing_waits =>
    intro rests
    rw [Slot.isExecuting_eq_isSome, Option.isSome_eq_false_iff, Option.isNone_iff_eq_none] at rests
    exact ⟨quiet.parked genuine rests, quiet.pendingReset rests⟩

def lateEnd : List Turn :=
  [sendReadSix 1, { operation := .device .reset }, { operation := .device (.restore {}) },
    sendReadSix 2, { operation := .complete 0 {} }]

theorem commands_accounted_lateEnd :
    (∀ turn ∈ lateEnd, turn.Genuine) ∧
      ((create {} "lun0" .holds).play lateEnd).condition = .working ∧
      Accounted ((create {} "lun0" .holds).play lateEnd)
        ((create {} "lun0" .holds).submitted lateEnd)
        ((create {} "lun0" .holds).abandoned lateEnd) := by
  have genuine : ∀ turn ∈ lateEnd, turn.Genuine := by
    simpa [lateEnd, Turn.Genuine, sendReadSix] using SavedState.genuine_fresh
  exact ⟨genuine, by decide, commands_accounted {} "lun0" .holds lateEnd genuine (by decide)⟩

-- Until a command that was given up ends, it still waits, and no other has its generation.
theorem waiting_once_not_executing :
    ((create {} "lun0" .holds).play [sendReadSix 1, { operation := .device .reset }]).condition =
        .working ∧
      ¬ ∀ generation : Nat,
        ((create {} "lun0" .holds).play
          [sendReadSix 1, { operation := .device .reset }]).device.slot = .executing generation ↔
        ((create {} "lun0" .holds).play
          [sendReadSix 1, { operation := .device .reset }]).waiting.countP
            (fun command => command.generation = generation) = 1 := by
  refine ⟨by decide, fun claimed => ?_⟩
  exact absurd ((claimed 0).mpr (by decide)) (by decide)

end System

end BulkOnly
