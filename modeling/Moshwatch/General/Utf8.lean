import Mathlib

/-! Lossy decoding of UTF-8: each maximal part that begins no text becomes one replacement. -/

namespace Utf8

/-- A character whose first bytes have been read: their bits, the number of bytes it lacks
    and the range of the next one. -/
structure Pending where
  bits : Nat
  lacking : Nat
  low : Nat
  high : Nat
  tail : 0x80 ≤ low

def replacement : Char := Char.ofNat 0xfffd

/-- What a byte between characters yields, and leaves pending. -/
def lead (byte : UInt8) : List Char × Option Pending :=
  if byte.toNat < 0x80 then ([Char.ofNat byte.toNat], none)
  else if byte.toNat < 0xc2 then ([replacement], none)
  else if byte.toNat < 0xe0 then ([], some ⟨byte.toNat - 0xc0, 1, 0x80, 0xbf, by decide⟩)
  else if byte.toNat = 0xe0 then ([], some ⟨0, 2, 0xa0, 0xbf, by decide⟩)
  else if byte.toNat = 0xed then ([], some ⟨0xd, 2, 0x80, 0x9f, by decide⟩)
  else if byte.toNat < 0xf0 then ([], some ⟨byte.toNat - 0xe0, 2, 0x80, 0xbf, by decide⟩)
  else if byte.toNat = 0xf0 then ([], some ⟨0, 3, 0x90, 0xbf, by decide⟩)
  else if byte.toNat < 0xf4 then ([], some ⟨byte.toNat - 0xf0, 3, 0x80, 0xbf, by decide⟩)
  else if byte.toNat = 0xf4 then ([], some ⟨4, 3, 0x80, 0x8f, by decide⟩)
  else ([replacement], none)

/-- A byte that the pending character cannot have ends it, and is read afresh. -/
def step : Option Pending → UInt8 → List Char × Option Pending
  | none, byte => lead byte
  | some pending, byte =>
    if pending.low ≤ byte.toNat ∧ byte.toNat ≤ pending.high then
      if pending.lacking = 1 then ([Char.ofNat (pending.bits * 64 + (byte.toNat - 0x80))], none)
      else
        ([], some ⟨pending.bits * 64 + (byte.toNat - 0x80), pending.lacking - 1, 0x80, 0xbf,
          by decide⟩)
    else (replacement :: (lead byte).1, (lead byte).2)

def run : Option Pending → List UInt8 → List Char
  | none, [] => []
  | some _, [] => [replacement]
  | pending, byte :: rest => (step pending byte).1 ++ run (step pending byte).2 rest

def lossy (bytes : List UInt8) : List Char := run none bytes

theorem run_cons (pending : Option Pending) (byte : UInt8) (rest : List UInt8) :
    run pending (byte :: rest) = (step pending byte).1 ++ run (step pending byte).2 rest := by
  cases pending <;> rfl

theorem step_ascii (pending : Option Pending) {byte : UInt8} (ascii : byte.toNat < 0x80) :
    (step pending byte).2 = none := by
  have alone : (lead byte).2 = none := by
    rw [lead, if_pos ascii]
  cases pending with
  | none => exact alone
  | some pending =>
    have outside : ¬ (pending.low ≤ byte.toNat ∧ byte.toNat ≤ pending.high) := by
      have tail := pending.tail
      omega
    rw [step, if_neg outside]
    exact alone

/-- Nothing is pending after an ASCII byte. -/
theorem run_ascii {byte : UInt8} (ascii : byte.toNat < 0x80) (front back : List UInt8) :
    ∀ pending, run pending (front ++ byte :: back) =
      run pending (front ++ [byte]) ++ run none back := by
  induction front with
  | nil =>
    intro pending
    rw [List.nil_append, List.nil_append, run_cons, run_cons, step_ascii pending ascii,
      List.append_assoc]
    rfl
  | cons first front ih =>
    intro pending
    rw [List.cons_append, List.cons_append, run_cons, run_cons, ih, List.append_assoc]

theorem lossy_append {front : List UInt8} {byte : UInt8} (ascii : byte.toNat < 0x80)
    (back : List UInt8) :
    lossy (front ++ [byte] ++ back) = lossy (front ++ [byte]) ++ lossy back := by
  rw [List.append_assoc, List.singleton_append]
  exact run_ascii ascii front back none

section Encoded

/-- The byte `tail` bits of a character are sent in. -/
def tailByte (bits : Nat) : UInt8 := UInt8.ofNat (bits % 0x40 + 0x80)

theorem toNat_tailByte (bits : Nat) : (tailByte bits).toNat = bits % 0x40 + 0x80 := by
  rw [tailByte, UInt8.toNat_ofNat']
  omega

variable {pending : Pending} {bits : Nat}

theorem run_last (lacks : pending.lacking = 1)
    (inRange : pending.low ≤ bits % 0x40 + 0x80 ∧ bits % 0x40 + 0x80 ≤ pending.high)
    (rest : List UInt8) :
    run (some pending) (tailByte bits :: rest) =
      Char.ofNat (pending.bits * 64 + bits % 0x40) :: run none rest := by
  rw [run_cons, step, toNat_tailByte, if_pos inRange, if_pos lacks, Nat.add_sub_cancel]
  rfl

theorem run_tail (lacks : pending.lacking ≠ 1)
    (inRange : pending.low ≤ bits % 0x40 + 0x80 ∧ bits % 0x40 + 0x80 ≤ pending.high)
    (rest : List UInt8) :
    run (some pending) (tailByte bits :: rest) =
      run (some ⟨pending.bits * 64 + bits % 0x40, pending.lacking - 1, 0x80, 0xbf, by decide⟩)
        rest := by
  rw [run_cons, step, toNat_tailByte, if_pos inRange, if_neg lacks]
  simp only [Nat.add_sub_cancel]
  rfl

theorem run_lead {byte : UInt8} (leads : lead byte = ([], some pending)) (rest : List UInt8) :
    run none (byte :: rest) = run (some pending) rest := by
  rw [run_cons, step, leads]
  rfl

theorem lead_two {code : Nat} (low : 0x80 ≤ code) (high : code ≤ 0x7ff) :
    lead (UInt8.ofNat (code / 64 % 0x20 + 0xc0)) =
      ([], some ⟨code / 64, 1, 0x80, 0xbf, by decide⟩) := by
  have value : (UInt8.ofNat (code / 64 % 0x20 + 0xc0)).toNat = code / 64 + 0xc0 := by
    rw [UInt8.toNat_ofNat']
    omega
  rw [lead, value, if_neg (by omega), if_neg (by omega), if_pos (by omega), Nat.add_sub_cancel]

/-- The second byte of three is bounded: no character is below 0x800 or a surrogate. -/
theorem lead_three {code : Nat} (low : 0x800 ≤ code) (high : code ≤ 0xffff)
    (scalar : code < 0xd800 ∨ 0xdfff < code) :
    ∃ pending, lead (UInt8.ofNat (code / 4096 % 0x10 + 0xe0)) = ([], some pending) ∧
      pending.bits = code / 4096 ∧ pending.lacking = 2 ∧
      pending.low ≤ code / 64 % 0x40 + 0x80 ∧ code / 64 % 0x40 + 0x80 ≤ pending.high := by
  have value : (UInt8.ofNat (code / 4096 % 0x10 + 0xe0)).toNat = code / 4096 + 0xe0 := by
    rw [UInt8.toNat_ofNat']
    omega
  rw [lead, value, if_neg (by omega), if_neg (by omega), if_neg (by omega)]
  by_cases first : code / 4096 + 0xe0 = 0xe0
  · rw [if_pos first]
    exact ⟨_, rfl, by simp only; omega, rfl, by simp only; omega, by simp only; omega⟩
  · rw [if_neg first]
    by_cases surrogate : code / 4096 + 0xe0 = 0xed
    · rw [if_pos surrogate]
      exact ⟨_, rfl, by simp only; omega, rfl, by simp only; omega, by simp only; omega⟩
    · rw [if_neg surrogate, if_pos (by omega)]
      exact ⟨_, rfl, by simp only; omega, rfl, by simp only; omega, by simp only; omega⟩

/-- The second byte of four is bounded: a character is from 0x10000 to 0x10ffff. -/
theorem lead_four {code : Nat} (low : 0x10000 ≤ code) (high : code < 0x110000) :
    ∃ pending, lead (UInt8.ofNat (code / 262144 % 0x08 + 0xf0)) = ([], some pending) ∧
      pending.bits = code / 262144 ∧ pending.lacking = 3 ∧
      pending.low ≤ code / 4096 % 0x40 + 0x80 ∧ code / 4096 % 0x40 + 0x80 ≤ pending.high := by
  have value : (UInt8.ofNat (code / 262144 % 0x08 + 0xf0)).toNat = code / 262144 + 0xf0 := by
    rw [UInt8.toNat_ofNat']
    omega
  rw [lead, value, if_neg (by omega), if_neg (by omega), if_neg (by omega), if_neg (by omega),
    if_neg (by omega), if_neg (by omega)]
  by_cases first : code / 262144 + 0xf0 = 0xf0
  · rw [if_pos first]
    exact ⟨_, rfl, by simp only; omega, rfl, by simp only; omega, by simp only; omega⟩
  · rw [if_neg first]
    by_cases inner : code / 262144 + 0xf0 < 0xf4
    · rw [if_pos inner]
      exact ⟨_, rfl, by simp only; omega, rfl, by simp only; omega, by simp only; omega⟩
    · rw [if_neg inner, if_pos (by omega)]
      exact ⟨_, rfl, by simp only; omega, rfl, by simp only; omega, by simp only; omega⟩

section Widths

variable {code : Nat} (rest : List UInt8)

theorem run_one (high : code ≤ 0x7f) :
    run none (UInt8.ofNat code :: rest) = Char.ofNat code :: run none rest := by
  have value : (UInt8.ofNat code).toNat = code := by
    rw [UInt8.toNat_ofNat']
    omega
  rw [run_cons, step, lead, value, if_pos (by omega)]
  rfl

theorem run_two (low : 0x80 ≤ code) (high : code ≤ 0x7ff) :
    run none (UInt8.ofNat (code / 64 % 0x20 + 0xc0) :: tailByte code :: rest) =
      Char.ofNat code :: run none rest := by
  rw [run_lead (lead_two low high), run_last rfl ⟨by simp only; omega, by simp only; omega⟩]
  congr 2
  simp only
  omega

theorem run_three (low : 0x800 ≤ code) (high : code ≤ 0xffff)
    (scalar : code < 0xd800 ∨ 0xdfff < code) :
    run none (UInt8.ofNat (code / 4096 % 0x10 + 0xe0) :: tailByte (code / 64) :: tailByte code ::
      rest) = Char.ofNat code :: run none rest := by
  obtain ⟨pending, leads, bits, lacking, inRange⟩ := lead_three low high scalar
  rw [run_lead leads, run_tail (by omega) inRange, run_last (by simp only; omega)
    ⟨by simp only; omega, by simp only; omega⟩]
  congr 2
  simp only
  omega

theorem run_four (low : 0x10000 ≤ code) (high : code < 0x110000) :
    run none (UInt8.ofNat (code / 262144 % 0x08 + 0xf0) :: tailByte (code / 4096) ::
      tailByte (code / 64) :: tailByte code :: rest) = Char.ofNat code :: run none rest := by
  obtain ⟨pending, leads, bits, lacking, inRange⟩ := lead_four low high
  rw [run_lead leads, run_tail (by omega) inRange, run_tail (by simp only; omega)
    ⟨by simp only; omega, by simp only; omega⟩, run_last (by simp only; omega)
    ⟨by simp only; omega, by simp only; omega⟩]
  congr 2
  simp only
  omega

end Widths

theorem lossy_utf8EncodeChar (ch : Char) (rest : List UInt8) :
    lossy (String.utf8EncodeChar ch ++ rest) = ch :: lossy rest := by
  have scalar : ch.toNat < 0xd800 ∨ 0xdfff < ch.toNat ∧ ch.toNat < 0x110000 := ch.valid
  have same : Char.ofNat ch.toNat = ch := Char.ofNat_toNat ch
  change lossy ((if ch.toNat ≤ 0x7f then [UInt8.ofNat ch.toNat]
    else if ch.toNat ≤ 0x7ff then
      [UInt8.ofNat (ch.toNat / 64 % 0x20 + 0xc0), tailByte ch.toNat]
    else if ch.toNat ≤ 0xffff then
      [UInt8.ofNat (ch.toNat / 4096 % 0x10 + 0xe0), tailByte (ch.toNat / 64), tailByte ch.toNat]
    else
      [UInt8.ofNat (ch.toNat / 262144 % 0x08 + 0xf0), tailByte (ch.toNat / 4096),
        tailByte (ch.toNat / 64), tailByte ch.toNat]) ++ rest) = _
  generalize ch.toNat = code at scalar same
  rw [← same]
  by_cases one : code ≤ 0x7f
  · rw [if_pos one]
    exact run_one rest one
  · by_cases two : code ≤ 0x7ff
    · rw [if_neg one, if_pos two]
      exact run_two rest (by omega) two
    · by_cases three : code ≤ 0xffff
      · rw [if_neg one, if_neg two, if_pos three]
        exact run_three rest (by omega) three (by omega)
      · rw [if_neg one, if_neg two, if_neg three]
        exact run_four rest (by omega) (by omega)

theorem lossy_flatMap (chars : List Char) : lossy (chars.flatMap String.utf8EncodeChar) = chars := by
  induction chars with
  | nil => rfl
  | cons ch rest ih => rw [List.flatMap_cons, lossy_utf8EncodeChar, ih]

end Encoded

end Utf8
