import BarrelModule.Proofs.Text.Fields
import BarrelModule.Text.Utf8
import Mathlib.Tactic.SplitIfs

namespace BarrelModule.Text

namespace Utf8

lemma decodeFrom_inside {least greatest b : UInt8} (h : least ≤ b ∧ b ≤ greatest) (lacking bits : Nat)
    (bs : Bytes) :
    decodeFrom (.inside lacking least greatest bits) (b :: bs) =
      if lacking ≤ 1 then Char.ofNat (bits * 64 + (b.toNat - 0x80)) :: decodeFrom .between bs
      else decodeFrom (.inside (lacking - 1) 0x80 0xBF (bits * 64 + (b.toNat - 0x80))) bs := by
  rw [decodeFrom, step, if_pos h]
  split <;> rfl

def opened (lead : Nat) : Pending :=
  if lead = 0xE0 then .inside 2 0xA0 0xBF 0
  else if lead = 0xED then .inside 2 0x80 0x9F 0xD
  else if lead = 0xF0 then .inside 3 0x90 0xBF 0
  else if lead = 0xF4 then .inside 3 0x80 0x8F 4
  else if lead ≤ 0xDF then .inside 1 0x80 0xBF (lead - 0xC0)
  else if lead ≤ 0xEF then .inside 2 0x80 0xBF (lead - 0xE0)
  else .inside 3 0x80 0xBF (lead - 0xF0)

lemma toNat_ofNat {k : Nat} (h : k < 256) : (UInt8.ofNat k).toNat = k := by
  simpa using h

lemma start_lead {lead : Nat} (h : 0xC2 ≤ lead) (h' : lead ≤ 0xF4) :
    start (UInt8.ofNat lead) = ([], opened lead) := by
  have hall : ∀ k < 0xF5, 0xC2 ≤ k → start (UInt8.ofNat k) = ([], opened k) := by decide +kernel
  exact hall lead (Nat.lt_succ_of_le h') h

lemma decodeFrom_lead (lead : Nat) (h : 0xC2 ≤ lead) (h' : lead ≤ 0xF4) (bs : Bytes) :
    decodeFrom .between (UInt8.ofNat lead :: bs) = decodeFrom (opened lead) bs := by
  rw [decodeFrom, step, start_lead h h', List.nil_append]

lemma decodeFrom_tail (lacking bits k : Nat) (hk : k < 64) (least greatest : UInt8)
    (h : least.toNat ≤ k + 0x80) (h' : k + 0x80 ≤ greatest.toNat) (bs : Bytes) :
    decodeFrom (.inside lacking least greatest bits) (UInt8.ofNat (k + 0x80) :: bs) =
      if lacking ≤ 1 then Char.ofNat (bits * 64 + k) :: decodeFrom .between bs
      else decodeFrom (.inside (lacking - 1) 0x80 0xBF (bits * 64 + k)) bs := by
  have hn : (UInt8.ofNat (k + 0x80)).toNat = k + 0x80 := toNat_ofNat (by omega)
  rw [decodeFrom_inside (by simp only [UInt8.le_iff_toNat_le, hn]; exact ⟨h, h'⟩), hn, Nat.add_sub_cancel]

lemma opened_two {v : Nat} (h : 0x7F < v) (h' : v ≤ 0x7FF) :
    opened (v / 64 % 32 + 0xC0) = .inside 1 0x80 0xBF (v / 64) := by
  rw [opened]
  split_ifs <;> first | omega | exact congrArg (Pending.inside 1 0x80 0xBF) (by omega)

lemma opened_three {v : Nat} (h : 0x7FF < v) (h' : v ≤ 0xFFFF) (hs : v < 0xD800 ∨ 0xDFFF < v) :
    ∃ least greatest : UInt8, opened (v / 4096 % 16 + 0xE0) = .inside 2 least greatest (v / 4096) ∧
      least.toNat ≤ v / 64 % 64 + 0x80 ∧ v / 64 % 64 + 0x80 ≤ greatest.toNat := by
  rw [opened]
  split_ifs
  · refine ⟨0xA0, 0xBF, congrArg (Pending.inside 2 0xA0 0xBF) (by omega), ?_, ?_⟩ <;>
      simp only [UInt8.reduceToNat] <;> omega
  · refine ⟨0x80, 0x9F, congrArg (Pending.inside 2 0x80 0x9F) (by omega), ?_, ?_⟩ <;>
      simp only [UInt8.reduceToNat] <;> omega
  · omega
  · omega
  · omega
  · refine ⟨0x80, 0xBF, congrArg (Pending.inside 2 0x80 0xBF) (by omega), ?_, ?_⟩ <;>
      simp only [UInt8.reduceToNat] <;> omega
  · omega

lemma opened_four {v : Nat} (h : 0xFFFF < v) (h' : v < 0x110000) :
    ∃ least greatest : UInt8, opened (v / 262144 % 8 + 0xF0) = .inside 3 least greatest (v / 262144) ∧
      least.toNat ≤ v / 4096 % 64 + 0x80 ∧ v / 4096 % 64 + 0x80 ≤ greatest.toNat := by
  rw [opened]
  split_ifs
  · omega
  · omega
  · refine ⟨0x90, 0xBF, congrArg (Pending.inside 3 0x90 0xBF) (by omega), ?_, ?_⟩ <;>
      simp only [UInt8.reduceToNat] <;> omega
  · refine ⟨0x80, 0x8F, congrArg (Pending.inside 3 0x80 0x8F) (by omega), ?_, ?_⟩ <;>
      simp only [UInt8.reduceToNat] <;> omega
  · omega
  · omega
  · refine ⟨0x80, 0xBF, congrArg (Pending.inside 3 0x80 0xBF) (by omega), ?_, ?_⟩ <;>
      simp only [UInt8.reduceToNat] <;> omega

lemma decodeFrom_encodeChar (c : Char) (bs : Bytes) :
    decodeFrom .between (String.utf8EncodeChar c ++ bs) = c :: decodeFrom .between bs := by
  have hc : c.val.toNat < 0xD800 ∨ 0xDFFF < c.val.toNat ∧ c.val.toNat < 0x110000 := c.valid
  have hv : Char.ofNat c.val.toNat = c := Char.ofNat_toNat c
  generalize hvalue : c.val.toNat = v at hc hv
  -- The last byte is the same in every form: six bits that complete the character.
  have hlast : decodeFrom (.inside 1 0x80 0xBF (v / 64)) (UInt8.ofNat (v % 64 + 0x80) :: bs) =
      c :: decodeFrom .between bs := by
    have ht := decodeFrom_tail 1 (v / 64) (v % 64) (by omega) 0x80 0xBF (by simp) (by simp; omega) bs
    rwa [if_pos (by omega), show v / 64 * 64 + v % 64 = v by omega, hv] at ht
  simp only [String.utf8EncodeChar, hvalue]
  split_ifs with h1 h2 h3
  · have hb : (UInt8.ofNat v).toNat = v := toNat_ofNat (by omega)
    have hle : UInt8.ofNat v ≤ 0x7F := UInt8.le_iff_toNat_le.mpr (by simpa [hb] using h1)
    rw [List.cons_append, List.nil_append, decodeFrom, step, start, if_pos hle, hb, hv]
    rfl
  · rw [List.cons_append, decodeFrom_lead _ (by omega) (by omega), opened_two (by omega) h2]
    exact hlast
  · obtain ⟨least, greatest, ho, hl, hg⟩ := opened_three (by omega) h3 (by omega : v < 0xD800 ∨ 0xDFFF < v)
    have ht := decodeFrom_tail 2 (v / 4096) (v / 64 % 64) (by omega) least greatest hl hg
      (UInt8.ofNat (v % 64 + 0x80) :: bs)
    rw [if_neg (by omega), show v / 4096 * 64 + v / 64 % 64 = v / 64 by omega] at ht
    rw [List.cons_append, decodeFrom_lead _ (by omega) (by omega), ho]
    exact ht.trans hlast
  · obtain ⟨least, greatest, ho, hl, hg⟩ := opened_four (by omega) (by omega : v < 0x110000)
    have ht := decodeFrom_tail 3 (v / 262144) (v / 4096 % 64) (by omega) least greatest hl hg
      (UInt8.ofNat (v / 64 % 64 + 0x80) :: UInt8.ofNat (v % 64 + 0x80) :: bs)
    have hu := decodeFrom_tail 2 (v / 4096) (v / 64 % 64) (by omega) 0x80 0xBF (by simp) (by simp; omega)
      (UInt8.ofNat (v % 64 + 0x80) :: bs)
    rw [if_neg (by omega), show v / 262144 * 64 + v / 4096 % 64 = v / 4096 by omega] at ht
    rw [if_neg (by omega), show v / 4096 * 64 + v / 64 % 64 = v / 64 by omega] at hu
    rw [List.cons_append, decodeFrom_lead _ (by omega) (by omega), ho]
    exact ht.trans (hu.trans hlast)

lemma decodeFrom_flatMap (cs : List Char) :
    decodeFrom .between (cs.flatMap String.utf8EncodeChar) = cs := by
  induction cs with
  | nil => rfl
  | cons c cs ih => rw [List.flatMap_cons, decodeFrom_encodeChar, ih]

end Utf8

theorem decode_encode (s : String) : decode (encode s) = s := by
  rw [decode, encode, Utf8.decodeFrom_flatMap, String.ofList_toList]

lemma encode_injective {s t : String} (h : encode s = encode t) : s = t := by
  rw [← decode_encode s, h, decode_encode]

end BarrelModule.Text
