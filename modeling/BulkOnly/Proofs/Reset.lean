import BulkOnly.Device.Completion

set_option autoImplicit false

namespace BulkOnly.Device

theorem foldl_finish (urbs : List Urb) (d : Device) (status : Urb.Status) :
    urbs.foldl (fun d urb => d.finish urb status) d =
      { d with done := ⟨d.done.toList ++ urbs.map (·.finished status)⟩ } := by
  induction urbs generalizing d with
  | nil => simp
  | cons urb rest ih =>
    rw [List.foldl_cons, ih]
    simp [finish, Urb.Queue.append]

theorem abortParked_eq (d : Device) :
    d.abortParked =
      { d with
        parked := .empty
        done := ⟨d.done.toList ++ d.parked.toList.map (·.finished .transportError)⟩
        events := d.events ++
          if d.parked.toList.isEmpty then [] else [.aborting d.parked.toList.length] } := by
  simp only [abortParked]
  rw [foldl_finish]
  split
  · simp
  · rfl

theorem finishPendingReset_eq (d : Device) :
    d.finishPendingReset =
      { d with
        pendingReset := none
        done := ⟨d.done.toList ++ d.pendingReset.toList.map (·.finished .ok)⟩ } := by
  obtain ⟨settings, location, slot, next, parked, done, pendingReset⟩ := d
  cases pendingReset with
  | none => simp [finishPendingReset]
  | some urb => rfl

theorem finishReset_eq (d : Device) (kind : Reset) :
    d.finishReset kind =
      { d with
        slot := d.slot.rewound
        parked := .empty
        done := ⟨d.done.toList ++ d.parked.toList.map (·.finished .transportError) ++
          d.pendingReset.toList.map (·.finished .ok)⟩
        pendingReset := none
        halts := {}
        configuration := kind.configurationAfter d.configuration
        statistics.resets := d.statistics.resets + 1
        events := d.events ++
          (if d.parked.toList.isEmpty then [] else [.aborting d.parked.toList.length]) ++
          [.resetDone kind] } := by
  simp only [finishReset, abortParked_eq, finishPendingReset_eq, log]

end BulkOnly.Device
