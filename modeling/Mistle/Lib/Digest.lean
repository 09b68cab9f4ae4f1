import Mistle.Lib.Text

/-!
# Digests

A digest of 32 bytes and its text in hexadecimal digits, from which the bytes can be
read back.

## Main definitions

* `Sha256`, `Sha256.TellsApart`: A digest function, and the texts that it tells apart.
* `hexLower`: Bytes as hexadecimal digits.

## Theorems

* `hexLower_injective`: Bytes that are written alike are the same.
-/

namespace Mistle

/-- A SHA-256 digest function. -/
structure Sha256 where
  digest : List UInt8 → List UInt8
  length_digest : ∀ bytes, (digest bytes).length = 32

/-- No two of the texts have the same digest. -/
def Sha256.TellsApart (sha : Sha256) (texts : List String) : Prop :=
  ∀ a ∈ texts, ∀ b ∈ texts, sha.digest (utf8 a) = sha.digest (utf8 b) → a = b

/-- One of the sixteen lowercase digits. -/
def hexDigit (n : Nat) : Char :=
  ("0123456789abcdef".toList).getD n '0'

def hexLower (bytes : List UInt8) : List Char :=
  bytes.flatMap fun byte => [hexDigit (byte.toNat / 16), hexDigit (byte.toNat % 16)]

theorem mem_hexLower {bytes : List UInt8} {c : Char} (h : c ∈ hexLower bytes) :
    ∃ n, n < 16 ∧ c = hexDigit n := by
  unfold hexLower at h
  rw [List.mem_flatMap] at h
  rcases h with ⟨byte, _, hc⟩
  have hlt := byte.toNat_lt
  rw [List.mem_cons, List.mem_singleton] at hc
  rcases hc with hc | hc
  · exact ⟨byte.toNat / 16, by omega, hc⟩
  · exact ⟨byte.toNat % 16, by omega, hc⟩

theorem hexDigit_injective {m n : Nat} (hm : m < 16) (hn : n < 16) (h : hexDigit m = hexDigit n) :
    m = n := by
  have hall : ∀ m < 16, ∀ n < 16, hexDigit m = hexDigit n → m = n := by decide
  exact hall m hm n hn h

theorem length_hexLower (bytes : List UInt8) : (hexLower bytes).length = 2 * bytes.length := by
  unfold hexLower
  induction bytes with
  | nil => rfl
  | cons byte bytes ih =>
      rw [List.flatMap_cons, List.length_append, ih, List.length_cons]
      simp only [List.length_cons, List.length_nil]
      omega

theorem hexLower_injective : Function.Injective hexLower := by
  intro a
  induction a with
  | nil =>
      intro b h
      have hlength := congrArg List.length h
      rw [length_hexLower, length_hexLower, List.length_nil] at hlength
      exact (List.length_eq_zero_iff.mp (by omega)).symm
  | cons x a ih =>
      intro b h
      cases b with
      | nil => exact absurd (congrArg List.length h) (by
          rw [length_hexLower, length_hexLower]
          simp only [List.length_cons, List.length_nil]
          omega)
      | cons y b =>
          have hx := x.toNat_lt
          have hy := y.toNat_lt
          simp only [hexLower, List.flatMap_cons, List.cons_append, List.nil_append,
            List.cons.injEq] at h
          rcases h with ⟨hhigh, hlow, hrest⟩
          have hhigh' := hexDigit_injective (by omega) (by omega) hhigh
          have hlow' := hexDigit_injective (by omega) (by omega) hlow
          have hbyte : x = y := UInt8.toNat_inj.mp (by omega)
          rw [hbyte, ih hrest]

end Mistle
