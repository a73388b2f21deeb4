import BarrelModule.Text.Utf8
import Mathlib.Algebra.Group.Nat.Defs
import Mathlib.Tactic.Lemma

/-! A byte of ASCII stands for itself wherever it occurs. It ends what was pending, so the bytes on its two
sides are decoded apart; and no other bytes are decoded to a character of ASCII. -/

namespace BarrelModule.Text

namespace Utf8

/-- What a byte between two characters does. When it begins a character, no byte of ASCII goes on with it, and
the least value that it can come to lies beyond ASCII. -/
inductive Starts (b : UInt8) : List Char × Pending → Prop
  | ascii (h : b ≤ 0x7F) : Starts b ([Char.ofNat b.toNat], .between)
  | stray : Starts b ([replacement], .between)
  | lead {lacking : Nat} {least greatest : UInt8} {bits : Nat} (hl : 0x7F < least)
      (hv : 0x80 ≤ (bits * 64 + (least.toNat - 0x80)) * 64 ^ (lacking - 1)) :
      Starts b ([], .inside lacking least greatest bits)

lemma start_starts (b : UInt8) : Starts b (start b) := by
  rw [start]
  refine iteInduction (motive := Starts b) .ascii fun _ => ?_
  refine iteInduction (motive := Starts b) (fun _ => .stray) fun hC2 => ?_
  refine iteInduction (motive := Starts b) (fun _ => .lead (by decide) ?_) fun hDF => ?_
  · simp only [UInt8.lt_iff_toNat_lt, UInt8.reduceToNat] at hC2 ⊢
    omega
  refine iteInduction (motive := Starts b) (fun _ => .lead (by decide) (by decide)) fun hE0 => ?_
  refine iteInduction (motive := Starts b) (fun _ => .lead (by decide) (by decide)) fun _ => ?_
  refine iteInduction (motive := Starts b) (fun _ => .lead (by decide) ?_) fun hEF => ?_
  · simp only [UInt8.le_iff_toNat_le, ← UInt8.toNat_inj, UInt8.reduceToNat] at hDF hE0 ⊢
    omega
  refine iteInduction (motive := Starts b) (fun _ => .lead (by decide) (by decide)) fun hF0 => ?_
  refine iteInduction (motive := Starts b) (fun _ => .lead (by decide) ?_) fun _ => ?_
  · simp only [UInt8.le_iff_toNat_le, ← UInt8.toNat_inj, UInt8.reduceToNat] at hEF hF0 ⊢
    omega
  exact iteInduction (motive := Starts b) (fun _ => .lead (by decide) (by decide)) fun _ => .stray

def Pending.ExcludesAscii : Pending → Prop
  | .between => True
  | .inside _ least _ _ => 0x7F < least

def Pending.BeyondAscii : Pending → Prop
  | .between => True
  | .inside lacking least _ bits => 0x80 ≤ (bits * 64 + (least.toNat - 0x80)) * 64 ^ (lacking - 1)

lemma Starts.excludesAscii {b : UInt8} {r : List Char × Pending} (h : Starts b r) : r.2.ExcludesAscii := by
  cases h with
  | ascii => trivial
  | stray => trivial
  | lead hl hv => exact hl

lemma Starts.beyondAscii {b : UInt8} {r : List Char × Pending} (h : Starts b r) : r.2.BeyondAscii := by
  cases h with
  | ascii => trivial
  | stray => trivial
  | lead hl hv => exact hv

lemma step_excludesAscii {p : Pending} (h : p.ExcludesAscii) (b : UInt8) :
    (step p b).2.ExcludesAscii := by
  cases p with
  | between => exact (start_starts b).excludesAscii
  | inside lacking least greatest bits =>
    simp only [step]
    split
    · split
      · trivial
      · simp only [Pending.ExcludesAscii, UInt8.reduceLT]
    · exact (start_starts b).excludesAscii

lemma step_beyondAscii {p : Pending} (h : p.BeyondAscii) (b : UInt8) : (step p b).2.BeyondAscii := by
  cases p with
  | between => exact (start_starts b).beyondAscii
  | inside lacking least greatest bits =>
    simp only [step]
    split
    case isTrue hb =>
      split
      · trivial
      · have hle : least.toNat ≤ b.toNat := UInt8.le_iff_toNat_le.mp hb.1
        obtain ⟨k, rfl⟩ : ∃ k, lacking = k + 2 := ⟨lacking - 2, by omega⟩
        have hleast : (0x80 : UInt8).toNat - 0x80 = 0 := rfl
        have hlacking : k + 2 - 1 - 1 = k := rfl
        rw [Pending.BeyondAscii, hleast, hlacking, Nat.add_zero]
        -- One byte less is lacking, and the value has grown by its six bits.
        calc 0x80
          _ ≤ (bits * 64 + (least.toNat - 0x80)) * 64 ^ (k + 1) := h
          _ ≤ (bits * 64 + (b.toNat - 0x80)) * 64 ^ (k + 1) := by
            apply Nat.mul_le_mul_right
            omega
          _ = (bits * 64 + (b.toNat - 0x80)) * 64 * 64 ^ k := by
            rw [Nat.pow_succ, Nat.mul_comm (64 ^ k), ← Nat.mul_assoc]
    case isFalse => exact (start_starts b).beyondAscii

lemma start_ascii {b : UInt8} (hb : b ≤ 0x7F) : start b = ([Char.ofNat b.toNat], .between) := by
  rw [start, if_pos hb]

lemma step_ascii {p : Pending} (h : p.ExcludesAscii) {b : UInt8} (hb : b ≤ 0x7F) :
    step p b = (decodeFrom p [] ++ [Char.ofNat b.toNat], .between) := by
  cases p with
  | between => exact start_ascii hb
  | inside lacking least greatest bits =>
    have hleast : ¬ (least ≤ b ∧ b ≤ greatest) := by
      rintro ⟨hl, -⟩
      exact absurd (UInt8.lt_of_lt_of_le h (UInt8.le_trans hl hb)) (UInt8.lt_irrefl _)
    rw [step, if_neg hleast, start_ascii hb, decodeFrom]
    rfl

lemma decodeFrom_append_ascii {p : Pending} (h : p.ExcludesAscii) (as : Bytes) {b : UInt8} (hb : b ≤ 0x7F)
    (bs : Bytes) :
    decodeFrom p (as ++ b :: bs) = decodeFrom p as ++ Char.ofNat b.toNat :: decodeFrom .between bs := by
  induction as generalizing p with
  | nil =>
    rw [List.nil_append, decodeFrom, step_ascii h hb]
    simp
  | cons a as ih =>
    rw [List.cons_append, decodeFrom, decodeFrom, ih (step_excludesAscii h a), List.append_assoc]

lemma decodeFrom_cons_ascii {b : UInt8} (hb : b ≤ 0x7F) (bs : Bytes) :
    decodeFrom .between (b :: bs) = Char.ofNat b.toNat :: decodeFrom .between bs := by
  rw [decodeFrom, step, start_ascii hb]
  rfl

def asciiText (bs : Bytes) : List Char := bs.map fun b => Char.ofNat b.toNat

lemma decodeFrom_ascii_append {as : Bytes} (h : ∀ b ∈ as, b ≤ 0x7F) (bs : Bytes) :
    decodeFrom .between (as ++ bs) = asciiText as ++ decodeFrom .between bs := by
  induction as with
  | nil => rfl
  | cons a as ih =>
    obtain ⟨ha, has⟩ := List.forall_mem_cons.mp h
    rw [List.cons_append, decodeFrom_cons_ascii ha, ih has]
    rfl

lemma decodeFrom_append_of_head (as : Bytes) {bs : Bytes} (h : ∀ b ∈ bs.head?, b ≤ 0x7F) :
    decodeFrom .between (as ++ bs) = decodeFrom .between as ++ decodeFrom .between bs := by
  cases bs with
  | nil =>
    rw [List.append_nil]
    exact (List.append_nil _).symm
  | cons b bs =>
    have hbetween : Pending.between.ExcludesAscii := trivial
    rw [decodeFrom_append_ascii hbetween as (h b rfl), decodeFrom_cons_ascii (h b rfl)]

lemma decodeFrom_inside_ne_nil (lacking : Nat) (least greatest : UInt8) (bits : Nat) (bs : Bytes) :
    decodeFrom (.inside lacking least greatest bits) bs ≠ [] := by
  induction bs generalizing lacking least greatest bits with
  | nil => simp [decodeFrom]
  | cons b bs ih =>
    simp only [decodeFrom, step]
    split
    · split
      · simp
      · exact ih _ _ _ _
    · simp

lemma decodeFrom_ne_nil {bs : Bytes} (h : bs ≠ []) : decodeFrom .between bs ≠ [] := by
  obtain ⟨b, bs, rfl⟩ := List.exists_cons_of_ne_nil h
  have hstart := start_starts b
  rw [decodeFrom, step]
  generalize start b = r at hstart ⊢
  cases hstart with
  | ascii => simp
  | stray => simp
  | lead => exact decodeFrom_inside_ne_nil _ _ _ _ bs

end Utf8

theorem decode_append_ascii (as : Bytes) {b : UInt8} (hb : b ≤ 0x7F) (bs : Bytes) :
    (decode (as ++ b :: bs)).toList = (decode as).toList ++ Char.ofNat b.toNat :: (decode bs).toList := by
  rw [decode, decode, decode, String.toList_ofList, String.toList_ofList, String.toList_ofList]
  apply Utf8.decodeFrom_append_ascii
  · trivial
  · exact hb

end BarrelModule.Text
