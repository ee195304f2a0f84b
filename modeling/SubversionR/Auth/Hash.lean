import SubversionR.Text

/-!
# Digests in keys — a hash that keeps texts apart

The controllers build the keys of their records from SHA-256 digests and separators.  The digest is
treated as injective; what matters besides is that it is written in hexadecimal digits, none of
which is a separator.

* `TextHash` — such a digest;
* `append_cons_inj` — a text can be cut at the first separator;
* `TextHash.sixDigits` — one that can be computed.
-/

namespace SubversionR

/-- The digits of a hexadecimal digest. -/
def hexDigits : List Char :=
  ['0', '1', '2', '3', '4', '5', '6', '7', '8', '9', 'a', 'b', 'c', 'd', 'e', 'f']

/-- `createHash("sha256").update(text, "utf8").digest("hex")`, treated as injective. -/
structure TextHash where
  hex : Text → Text
  injective : Function.Injective hex
  digits : ∀ text, ∀ c ∈ hex text, c ∈ hexDigits

/-- Two texts with a separator that does not occur before it are equal part by part. -/
theorem append_cons_inj {separator : Char} {before before' after after' : Text}
    (h : separator ∉ before) (h' : separator ∉ before')
    (heq : before ++ separator :: after = before' ++ separator :: after') :
    before = before' ∧ after = after' := by
  induction before generalizing before' with
  | nil =>
    cases before' with
    | nil => exact ⟨rfl, (List.cons.inj heq).2⟩
    | cons c before' => exact absurd (.head _) ((List.cons.inj heq).1 ▸ h')
  | cons c before ih =>
    cases before' with
    | nil => exact absurd (.head _) ((List.cons.inj heq).1 ▸ h)
    | cons c' before' =>
      obtain ⟨rfl, hrest⟩ := List.cons.inj heq
      obtain ⟨rfl, hafter⟩ := ih (fun hc => h (.tail _ hc)) (fun hc => h' (.tail _ hc)) hrest
      exact ⟨rfl, hafter⟩

namespace TextHash

theorem separator_notMem (hash : TextHash) (text : Text) {separator : Char}
    (h : separator ∉ hexDigits) : separator ∉ hash.hex text :=
  fun hmem => h (hash.digits text separator hmem)

/-! ## A digest to compute with -/

def hexDigit (n : Nat) : Char := hexDigits.getD (n % 16) '0'

/-- The code of a character in six digits. -/
def charDigits (c : Char) : List Char :=
  [hexDigit (c.toNat / 16 ^ 5), hexDigit (c.toNat / 16 ^ 4), hexDigit (c.toNat / 16 ^ 3),
    hexDigit (c.toNat / 16 ^ 2), hexDigit (c.toNat / 16), hexDigit c.toNat]

theorem hexDigit_mem (n : Nat) : hexDigit n ∈ hexDigits := by
  have hlt : n % 16 < 16 := Nat.mod_lt _ (by decide)
  have hall : ∀ k < 16, hexDigits.getD k '0' ∈ hexDigits := by decide
  exact hall _ hlt

theorem hexDigit_inj {n m : Nat} (h : hexDigit n = hexDigit m) : n % 16 = m % 16 := by
  have hinj : ∀ k < 16, ∀ l < 16, hexDigits.getD k '0' = hexDigits.getD l '0' → k = l := by decide
  exact hinj _ (Nat.mod_lt _ (by decide)) _ (Nat.mod_lt _ (by decide)) h

theorem toNat_lt (c : Char) : c.toNat < 16 ^ 6 := by
  have h := c.valid
  show c.val.toNat < _
  omega

theorem charDigits_inj {c d : Char} (h : charDigits c = charDigits d) : c = d := by
  unfold charDigits at h
  simp only [List.cons.injEq, and_true] at h
  obtain ⟨h5, h4, h3, h2, h1, h0⟩ := h
  have hc := toNat_lt c
  have hd := toNat_lt d
  have hcode : c.toNat = d.toNat := by
    have h5 := hexDigit_inj h5
    have h4 := hexDigit_inj h4
    have h3 := hexDigit_inj h3
    have h2 := hexDigit_inj h2
    have h1 := hexDigit_inj h1
    have h0 := hexDigit_inj h0
    omega
  exact Char.toNat_inj.mp hcode

/-- Every character in six digits. -/
def sixDigits : TextHash where
  hex text := text.flatMap charDigits
  injective := by
    intro text
    induction text with
    | nil =>
      intro text' h
      cases text' with
      | nil => rfl
      | cons c text' => simp [charDigits] at h
    | cons c text ih =>
      intro text' h
      cases text' with
      | nil => simp [charDigits] at h
      | cons c' text' =>
        simp only [List.flatMap_cons] at h
        obtain ⟨hfirst, hrest⟩ := List.append_inj h rfl
        rw [charDigits_inj hfirst, ih hrest]
  digits := by
    intro text c hc
    obtain ⟨d, -, hd⟩ := List.mem_flatMap.mp hc
    simp only [charDigits, List.mem_cons, List.not_mem_nil, or_false] at hd
    rcases hd with rfl | rfl | rfl | rfl | rfl | rfl <;> exact hexDigit_mem _

end TextHash

end SubversionR
