import BulkOnly.Journal.Limiter

set_option autoImplicit false

namespace BulkOnly.Limiter

variable {kind : Complaint.Kind}

def after (limiter : Limiter) (kinds : List Complaint.Kind) : Limiter :=
  kinds.foldl (fun limiter kind => (limiter.allow kind).1) limiter

def verdicts (limiter : Limiter) : List Complaint.Kind → List Bool
  | [] => []
  | kind :: rest => (limiter.allow kind).2 :: (limiter.allow kind).1.verdicts rest

def verdictsOn (limiter : Limiter) (kind : Complaint.Kind) (kinds : List Complaint.Kind) :
    List Bool :=
  ((kinds.zip (limiter.verdicts kinds)).filter fun judged => judged.1 = kind).map Prod.snd

def covers (limit : UInt32) (number : Nat) : Bool :=
  number ≤ limit.toNat || limit = 0xffffffff

@[simp] theorem after_cons (limiter : Limiter) (kind : Complaint.Kind)
    (rest : List Complaint.Kind) :
    limiter.after (kind :: rest) = (limiter.allow kind).1.after rest := rfl

theorem after_append (limiter : Limiter) (earlier later : List Complaint.Kind) :
    limiter.after (earlier ++ later) = (limiter.after earlier).after later :=
  List.foldl_append

@[simp] theorem length_verdicts (limiter : Limiter) (kinds : List Complaint.Kind) :
    (limiter.verdicts kinds).length = kinds.length := by
  induction kinds generalizing limiter with
  | nil => rfl
  | cons kind rest ih => simp only [verdicts, List.length_cons, ih]

theorem verdicts_append (limiter : Limiter) (earlier later : List Complaint.Kind) :
    limiter.verdicts (earlier ++ later) =
      limiter.verdicts earlier ++ (limiter.after earlier).verdicts later := by
  induction earlier generalizing limiter with
  | nil => rfl
  | cons kind rest ih => simp only [List.cons_append, verdicts, after_cons, ih]

theorem limit_after (limiter : Limiter) (kinds : List Complaint.Kind) :
    (limiter.after kinds).limit = limiter.limit := by
  induction kinds generalizing limiter with
  | nil => rfl
  | cons kind rest ih => exact ih (limiter.allow kind).1

theorem toNat_count_allow (limiter : Limiter) (kind other : Complaint.Kind) :
    ((limiter.allow kind).1.count other).toNat =
      if other = kind then min ((limiter.count kind).toNat + 1) 0xffffffff
      else (limiter.count other).toNat := by
  change ((limiter.recorded kind).count other).toNat = _
  rw [count_recorded]
  split
  · exact toNat_step _
  · rfl

-- A count that has reached the largest word stays there, so the two minima come to one.
theorem toNat_count_after (limiter : Limiter) (kinds : List Complaint.Kind)
    (kind : Complaint.Kind) :
    ((limiter.after kinds).count kind).toNat =
      min ((limiter.count kind).toNat + kinds.count kind) 0xffffffff := by
  induction kinds generalizing limiter with
  | nil =>
    have word := (limiter.count kind).toNat_lt
    simp only [after, List.foldl_nil, List.count_nil]
    omega
  | cons first rest ih =>
    rw [after_cons, ih, toNat_count_allow, List.count_cons]
    by_cases same : kind = first
    · subst same
      simp only [if_true, beq_self_eq_true]
      omega
    · simp only [if_neg same, beq_iff_eq, if_neg (Ne.symm same), Nat.add_zero]

example : (after { limit := 3, counts := .replicate 8 0xfffffffe }
    [.overrun, .overrun, .overrun]).count .overrun = 0xffffffff := by decide

theorem covers_iff {limit : UInt32} {number : Nat} :
    covers limit number = true ↔ number ≤ limit.toNat ∨ limit.toNat = 0xffffffff := by
  simp only [covers, Bool.or_eq_true, decide_eq_true_eq, ← UInt32.toNat_inj]
  rfl

theorem not_covers_of_le {limit : UInt32} {number larger : Nat} (le : number ≤ larger)
    (beyond : covers limit number = false) : covers limit larger = false := by
  rw [Bool.eq_false_iff, ne_eq, covers_iff] at beyond ⊢
  omega

-- No number past the largest word makes a difference, which is where a count stays.
theorem covers_saturated (limit : UInt32) (number : Nat) :
    covers limit (min number 0xffffffff + 1) = covers limit (number + 1) := by
  have word := limit.toNat_lt
  rw [Bool.eq_iff_iff, covers_iff, covers_iff]
  omega

theorem allow_eq_covers (limiter : Limiter) (kind : Complaint.Kind) :
    (limiter.allow kind).2 = covers limiter.limit ((limiter.count kind).toNat + 1) := by
  have word := limiter.limit.toNat_lt
  have counted := toNat_count_allow limiter kind kind
  rw [if_pos rfl] at counted
  rw [Bool.eq_iff_iff, covers_iff]
  change decide ((limiter.allow kind).1.count kind ≤ limiter.limit) = true ↔ _
  rw [decide_eq_true_iff, UInt32.le_iff_toNat_le, counted]
  omega

theorem allow_after (limit : UInt32) (kinds : List Complaint.Kind) (kind : Complaint.Kind) :
    ((after { limit } kinds).allow kind).2 = covers limit (kinds.count kind + 1) := by
  have none_counted : (count { limit } kind).toNat = 0 := by
    cases kind <;> rfl
  rw [allow_eq_covers, limit_after, toNat_count_after, none_counted, Nat.zero_add,
    covers_saturated]

theorem allow_after_stays {limit : UInt32} {earlier : List Complaint.Kind}
    (refused : ((after { limit } earlier).allow kind).2 = false) (later : List Complaint.Kind) :
    ((after { limit } (earlier ++ later)).allow kind).2 = false := by
  rw [allow_after] at refused ⊢
  rw [List.count_append]
  exact not_covers_of_le (by omega) refused

theorem verdict_at (limit : UInt32) (earlier later : List Complaint.Kind)
    (kind : Complaint.Kind) :
    (verdicts { limit } (earlier ++ kind :: later))[earlier.length]? =
      some (covers limit (earlier.count kind + 1)) := by
  rw [verdicts_append, List.getElem?_append_right (Nat.le_of_eq (length_verdicts _ _)),
    length_verdicts, Nat.sub_self, verdicts, List.getElem?_cons_zero, allow_after]

theorem verdictsOn_eq {these those : Limiter} (limit : those.limit = these.limit)
    (count : those.count kind = these.count kind) (kinds : List Complaint.Kind) :
    these.verdictsOn kind kinds = those.verdicts (kinds.filter (· = kind)) := by
  induction kinds generalizing these those with
  | nil => rfl
  | cons first rest ih =>
    by_cases same : first = kind
    · subst same
      have verdict : (those.allow first).2 = (these.allow first).2 := by
        rw [allow_eq_covers, allow_eq_covers, limit, count]
      have next : (those.allow first).1.count first = (these.allow first).1.count first := by
        rw [← UInt32.toNat_inj, toNat_count_allow, toNat_count_allow, count]
      have others : (these.allow first).1.verdictsOn first rest =
          (those.allow first).1.verdicts (rest.filter (· = first)) := ih limit next
      simp only [verdictsOn] at others
      simp [verdictsOn, verdicts, verdict, others]
    · have next : those.count kind = (these.allow first).1.count kind := by
        rw [← UInt32.toNat_inj, toNat_count_allow, if_neg (Ne.symm same), count]
      have others : (these.allow first).1.verdictsOn kind rest =
          those.verdicts (rest.filter (· = kind)) := ih limit next
      simp only [verdictsOn] at others
      simp [verdictsOn, verdicts, same, others]

end BulkOnly.Limiter
