import BulkOnly.Proofs.ParkedReads
import BulkOnly.Proofs.Requests

set_option autoImplicit false

namespace BulkOnly

def Slot.AtRest (slot : Slot) : Prop :=
  slot = .vacant ∨ ∃ t, slot = .held .ready t ∧ t.offset = 0

theorem Slot.atRest_rewound {slot : Slot} (idle : slot.isExecuting = false) :
    slot.rewound.AtRest := by
  cases slot with
  | vacant => exact .inl rfl
  | held phase t => exact .inr ⟨t.rewound, rfl, rfl⟩
  | executing generation => cases idle

namespace Device

variable {d e f : Device} {kind : Reset} {requester : Option Urb}

inductive Resets (d : Device) : Device.Operation → Reset → Option Urb → Prop where
  | bus : d.Resets .reset .device none
  | framework : d.Resets (.setConfiguration d.configuration) (.configuration d.configuration) none
  | configure {address : UInt8} {urb : Urb}
    (requests : urb.Requests address (.configure d.configuration)) :
    d.Resets (.dispatch address urb) (.configuration d.configuration) (some urb)
  | bulkOnly {address : UInt8} {urb : Urb} (requests : urb.Requests address .bulkOnlyReset)
    (idle : d.slot.isExecuting = false) : d.Resets (.dispatch address urb) .bulkOnly (some urb)

structure Restarted (d : Device) (kind : Reset) (requester : Option Urb) (e : Device) : Prop where
  rest : e = { d with
    slot := e.slot
    parked := .empty
    done := ⟨d.done.toList ++ d.parked.toList.map (·.finished .transportError) ++
      d.pendingReset.toList.map (·.finished .ok) ++ requester.toList.map (·.finished .ok)⟩
    pendingReset := none
    halts := {}
    configuration := if kind = .device then 0 else d.configuration
    statistics.resets := d.statistics.resets + 1
    statistics.abandoned := d.statistics.abandoned + if d.slot.isExecuting then 1 else 0
    events := e.events }
  slot : e.slot.AtRest

-- The reset itself clears the halts, so it does not matter how they were when it began.
theorem Restarted.after_told (told : f = { d with halts := f.halts, events := f.events })
    (restarted : f.Restarted kind requester e) : d.Restarted kind requester e := by
  obtain ⟨rest, resting⟩ := restarted
  rw [told] at rest
  exact ⟨rest, resting⟩

theorem Restarted.finish {urb : Urb} (restarted : d.Restarted kind none e) :
    d.Restarted kind (some urb) (e.finish urb .ok) := by
  refine ⟨?_, restarted.slot⟩
  rw [restarted.rest]
  simp [Device.finish, Urb.Queue.append]

theorem finishReset_restarted (kind : Reset) (idle : d.slot.isExecuting = false)
    (same : kind.configurationAfter d.configuration =
      if kind = .device then 0 else d.configuration) :
    d.Restarted kind none (d.finishReset kind) := by
  rw [finishReset_eq]
  refine ⟨?_, Slot.atRest_rewound idle⟩
  simp [same, idle]

theorem resetAs_restarted (kind : Reset)
    (same : kind.configurationAfter d.configuration =
      if kind = .device then 0 else d.configuration) :
    d.Restarted kind none (d.resetAs kind) := by
  unfold resetAs
  cases slot : d.slot with
  | executing generation =>
    have abandoned : d.abandon =
        log { d with slot := .vacant, statistics.abandoned := d.statistics.abandoned + 1 }
          (.abandoned generation d.settings.resetTimeout) := by
      simp only [abandon, slot]
    obtain ⟨rest, resting⟩ := finishReset_restarted (d := d.abandon) kind
      (by rw [abandoned]; rfl) (by rw [abandoned]; exact same)
    refine ⟨?_, resting⟩
    rw [rest, abandoned]
    simp [log, slot, Slot.isExecuting]
  | vacant | held _ _ =>
    have idle : d.abandon = d := by simp only [abandon, slot]
    rw [idle]
    exact finishReset_restarted kind (by rw [slot]; rfl) same

theorem operate_restarted {operation : Device.Operation}
    (resets : d.Resets operation kind requester) :
    ∃ e, d.operate operation =
        (e, if requester.isSome then .dispatched .completed else .done) ∧
      d.Restarted kind requester e := by
  cases resets with
  | bus =>
    have restarted := resetAs_restarted (d := d.log .deviceReset) .device rfl
    exact ⟨_, rfl, restarted.after_told rfl⟩
  | framework =>
    have restarted := resetAs_restarted (d := d) (.configuration d.configuration) rfl
    exact ⟨_, by simp [operate, setConfiguration], restarted⟩
  | @configure address urb requests =>
    obtain ⟨setup, handled⟩ := handle_request requests d
    let asked := log { d with halts := d.halts.set .control false } (.controlRequest setup)
    have decided : d.handle address urb = (asked, .reconfigure urb d.configuration) := by
      simp [handled, serve, log, asked]
    have restarted := resetAs_restarted (d := asked) (.configuration d.configuration) rfl
    refine ⟨_, ?_, (restarted.after_told (d := d) rfl).finish⟩
    simp only [operate, dispatch, decided, apply]
    rfl
  | @bulkOnly address urb requests idle =>
    obtain ⟨events, decided⟩ := handle_reset_idle requests idle
    have restarted := finishReset_restarted
      (d := { d with halts := d.halts.set .control false, events }) .bulkOnly idle rfl
    refine ⟨_, ?_, (restarted.after_told (d := d) rfl).finish⟩
    simp only [operate, dispatch, decided, apply]
    rfl

variable {urb : Urb} {wrapper : CommandWrapper}

end Device

namespace System

open Device

variable {s : System} {kind : Reset} {requester : Option Urb}

def readAndResetWait : List Turn :=
  [sendReadSix 1, readBulk 2 4,
    { operation := .device (.dispatch 0x00 (.control 3
        { requestType := 0x21, request := 0xff, value := 0, index := 0, length := 0 } [])) }]

def selectAnew : Setup :=
  { requestType := 0x00, request := 0x09, value := 0, index := 0, length := 0 }

end System

end BulkOnly
