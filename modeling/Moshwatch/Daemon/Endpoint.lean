import Moshwatch.Core.Parse

namespace Moshwatch

abbrev Ipv4Addr := Vector UInt8 4

abbrev Ipv6Addr := Vector UInt8 16

/-- `value?` on an `Option`. -/
def orReturn {α : Type} : Option α → Except (Failure Unit) α
  | some value => .ok value
  | none => .error (.error ())

def sliced (text : List Char) (first last : Nat) : Except (Failure Unit) (List Char) :=
  match slice text first last with
  | some part => .ok part
  | none => .error .panic

/-- `u8::from_str_radix(text, 16)`. -/
def u8FromHex (text : List Char) : Option UInt8 := (fromStrRadix 16 255 text).map UInt8.ofNat

/-- `u16::from_str_radix(text, 16)`. -/
def u16FromHex (text : List Char) : Option UInt16 := (fromStrRadix 16 65535 text).map UInt16.ofNat

def hexByte (text : List Char) (first last : Nat) : Except (Failure Unit) UInt8 := do
  orReturn (u8FromHex (← sliced text first last))

def decodeIpv4 (value : List Char) : Except (Failure Unit) String := do
  let bytes ← [0, 1, 2, 3].mapM fun idx => hexByte value (idx * 2) (idx * 2 + 2)
  match bytes with
  | [b0, b1, b2, b3] => return s!"{b3}.{b2}.{b1}.{b0}"
  | _ => throw .panic

/-- One round of the loop in `decode_ipv6`. -/
def decodeChunk (value : List Char) (bytes : Ipv6Addr) (chunk : Nat) :
    Except (Failure Unit) Ipv6Addr := do
  let word ← sliced value (chunk * 8) (chunk * 8 + 8)
  let bytes := bytes.setIfInBounds (chunk * 4) (← hexByte word 6 8)
  let bytes := bytes.setIfInBounds (chunk * 4 + 1) (← hexByte word 4 6)
  let bytes := bytes.setIfInBounds (chunk * 4 + 2) (← hexByte word 2 4)
  return bytes.setIfInBounds (chunk * 4 + 3) (← hexByte word 0 2)

section Display

-- `Display` of `Ipv6Addr`.
variable (display : Ipv6Addr → String)

def decodeIpv6 (value : List Char) : Except (Failure Unit) String := do
  let bytes ← [0, 1, 2, 3].foldlM (decodeChunk value) (Vector.replicate 16 0)
  return display bytes

def parseLocalEndpoint (value : List Char) : Except (Failure Unit) (String × UInt16) := do
  let (addrHex, portHex) ← orReturn (splitOnce value ':')
  let udpPort ← orReturn (u16FromHex portHex)
  let bindAddr ←
    if byteLen addrHex = 8 then decodeIpv4 addrHex
    else if byteLen addrHex = 32 then decodeIpv6 display addrHex
    else orReturn none
  return (bindAddr, udpPort)

end Display

inductive IpAddr where
  | v4 (octets : Ipv4Addr)
  | v6 (octets : Ipv6Addr)
  deriving DecidableEq

/-- A digit of `%X`. -/
def hexDigit (digit : Nat) : Char :=
  if digit < 10 then Char.ofNat (48 + digit) else Char.ofNat (55 + digit)

/-- `%0*X` for a value that has no more digits than the width. -/
def printHex (width value : Nat) : List Char :=
  (List.range width).reverse.map fun index => hexDigit (value / 16 ^ index % 16)

/-- Four bytes of an address read as one word by a little-endian host. -/
def hostWord (b0 b1 b2 b3 : UInt8) : Nat :=
  b0.toNat + 2 ^ 8 * b1.toNat + 2 ^ 16 * b2.toNat + 2 ^ 24 * b3.toNat

/-- The address column of `/proc/net/udp` and `/proc/net/udp6`. -/
def procNetAddr : IpAddr → List Char
  | .v4 a => printHex 8 (hostWord a[0] a[1] a[2] a[3])
  | .v6 a =>
    printHex 8 (hostWord a[0] a[1] a[2] a[3]) ++ printHex 8 (hostWord a[4] a[5] a[6] a[7]) ++
      printHex 8 (hostWord a[8] a[9] a[10] a[11]) ++ printHex 8 (hostWord a[12] a[13] a[14] a[15])

def procNetEndpoint (addr : IpAddr) (port : UInt16) : List Char :=
  procNetAddr addr ++ ':' :: printHex 4 port.toNat

def IpAddr.text (display : Ipv6Addr → String) : IpAddr → String
  | .v4 a => s!"{a[0]}.{a[1]}.{a[2]}.{a[3]}"
  | .v6 a => display a

section Hex

theorem toDigit_hexDigit {digit : Nat} (small : digit < 16) :
    toDigit 16 (hexDigit digit) = some digit := by
  have table : ∀ digit < 16, toDigit 16 (hexDigit digit) = some digit := by decide
  exact table digit small

theorem hexDigit_plain {digit : Nat} (small : digit < 16) :
    hexDigit digit ≠ '+' ∧ hexDigit digit ≠ ':' ∧ (hexDigit digit).utf8Size = 1 := by
  have table : ∀ digit < 16,
      hexDigit digit ≠ '+' ∧ hexDigit digit ≠ ':' ∧ (hexDigit digit).utf8Size = 1 := by decide
  exact table digit small

theorem fromStrRadix_hexDigits {max : Nat} {digits : List Nat} (small : ∀ digit ∈ digits, digit < 16)
    (nonempty : digits ≠ [])
    (fits : digits.foldl (fun sofar digit => 16 * sofar + digit) 0 ≤ max) :
    fromStrRadix 16 max (digits.map hexDigit) =
      some (digits.foldl (fun sofar digit => 16 * sofar + digit) 0) := by
  have plain : stripPlus (digits.map hexDigit) = digits.map hexDigit := by
    cases digits with
    | nil => rfl
    | cons first rest =>
      have other := (hexDigit_plain (small first (by simp))).1
      rw [List.map_cons]
      unfold stripPlus
      split
      · rename_i eq
        injection eq with same
        exact absurd same other
      · rfl
  have read : (digits.map hexDigit).mapM (toDigit 16) = some digits := by
    clear nonempty fits plain
    induction digits with
    | nil => rfl
    | cons first rest ih =>
      rw [List.map_cons, List.mapM_cons, toDigit_hexDigit (small first (by simp)),
        ih fun digit member => small digit (by simp [member])]
      rfl
  simp only [fromStrRadix, plain, read, Option.bind_eq_bind, Option.bind_some, nonempty, false_or]
  exact if_neg (by omega)

def hexPair (byte : UInt8) : List Char := [byte.toNat / 16, byte.toNat % 16].map hexDigit

theorem u8FromHex_hexPair (byte : UInt8) : u8FromHex (hexPair byte) = some byte := by
  have bound := byte.toNat_lt
  have value : 16 * (16 * 0 + byte.toNat / 16) + byte.toNat % 16 = byte.toNat := by omega
  have read := @fromStrRadix_hexDigits 255 [byte.toNat / 16, byte.toNat % 16] (by simp; omega)
    (by simp) (by simp only [List.foldl_cons, List.foldl_nil, value]; omega)
  simp only [List.foldl_cons, List.foldl_nil, value] at read
  rw [u8FromHex, hexPair, read, Option.map_some, UInt8.ofNat_toNat]

theorem u16FromHex_printHex (port : UInt16) : u16FromHex (printHex 4 port.toNat) = some port := by
  have bound := port.toNat_lt
  have value : 16 * (16 * (16 * (16 * 0 + port.toNat / 16 ^ 3 % 16) + port.toNat / 16 ^ 2 % 16) +
      port.toNat / 16 ^ 1 % 16) + port.toNat / 16 ^ 0 % 16 = port.toNat := by omega
  have read := @fromStrRadix_hexDigits 65535 [port.toNat / 16 ^ 3 % 16, port.toNat / 16 ^ 2 % 16,
    port.toNat / 16 ^ 1 % 16, port.toNat / 16 ^ 0 % 16] (by simp; omega)
    (by simp) (by simp only [List.foldl_cons, List.foldl_nil, value]; omega)
  simp only [List.foldl_cons, List.foldl_nil, value] at read
  have printed : printHex 4 port.toNat = [port.toNat / 16 ^ 3 % 16, port.toNat / 16 ^ 2 % 16,
      port.toNat / 16 ^ 1 % 16, port.toNat / 16 ^ 0 % 16].map hexDigit := rfl
  rw [u16FromHex, printed, read, Option.map_some, UInt16.ofNat_toNat]

/-- The host order puts the bytes of a word on paper back to front. -/
theorem printHex_hostWord (b0 b1 b2 b3 : UInt8) :
    printHex 8 (hostWord b0 b1 b2 b3) = [b3, b2, b1, b0].flatMap hexPair := by
  have h0 := b0.toNat_lt
  have h1 := b1.toNat_lt
  have h2 := b2.toNat_lt
  have h3 := b3.toNat_lt
  have printed : ∀ word, printHex 8 word = [word / 16 ^ 7 % 16, word / 16 ^ 6 % 16,
      word / 16 ^ 5 % 16, word / 16 ^ 4 % 16, word / 16 ^ 3 % 16, word / 16 ^ 2 % 16,
      word / 16 ^ 1 % 16, word / 16 ^ 0 % 16].map hexDigit := fun _ => rfl
  have d7 : hostWord b0 b1 b2 b3 / 16 ^ 7 % 16 = b3.toNat / 16 := by
    unfold hostWord
    omega
  have d6 : hostWord b0 b1 b2 b3 / 16 ^ 6 % 16 = b3.toNat % 16 := by
    unfold hostWord
    omega
  have d5 : hostWord b0 b1 b2 b3 / 16 ^ 5 % 16 = b2.toNat / 16 := by
    unfold hostWord
    omega
  have d4 : hostWord b0 b1 b2 b3 / 16 ^ 4 % 16 = b2.toNat % 16 := by
    unfold hostWord
    omega
  have d3 : hostWord b0 b1 b2 b3 / 16 ^ 3 % 16 = b1.toNat / 16 := by
    unfold hostWord
    omega
  have d2 : hostWord b0 b1 b2 b3 / 16 ^ 2 % 16 = b1.toNat % 16 := by
    unfold hostWord
    omega
  have d1 : hostWord b0 b1 b2 b3 / 16 ^ 1 % 16 = b0.toNat / 16 := by
    unfold hostWord
    omega
  have d0 : hostWord b0 b1 b2 b3 / 16 ^ 0 % 16 = b0.toNat % 16 := by
    unfold hostWord
    omega
  rw [printed, d7, d6, d5, d4, d3, d2, d1, d0]
  rfl

end Hex

section Decode

theorem byteLen_hexPairs (bytes : List UInt8) : byteLen (bytes.flatMap hexPair) = 2 * bytes.length := by
  induction bytes with
  | nil => rfl
  | cons byte rest ih =>
    have bound := byte.toNat_lt
    have high := (hexDigit_plain (show byte.toNat / 16 < 16 by omega)).2.2
    have low := (hexDigit_plain (show byte.toNat % 16 < 16 by omega)).2.2
    rw [List.flatMap_cons, byteLen_append, ih, List.length_cons]
    simp only [hexPair, List.map_cons, List.map_nil, byteLen_cons, byteLen_nil, high, low]
    omega

theorem sliced_hexPairs (front middle back : List UInt8) :
    sliced ((front ++ (middle ++ back)).flatMap hexPair) (2 * front.length)
      (2 * front.length + 2 * middle.length) = .ok (middle.flatMap hexPair) := by
  rw [sliced, List.flatMap_append, List.flatMap_append, ← byteLen_hexPairs, ← byteLen_hexPairs,
    slice_append]

theorem hexByte_hexPairs (front : List UInt8) (byte : UInt8) (back : List UInt8) :
    hexByte ((front ++ byte :: back).flatMap hexPair) (2 * front.length) (2 * front.length + 2) =
      .ok byte := by
  have part : sliced ((front ++ byte :: back).flatMap hexPair) (2 * front.length)
      (2 * front.length + 2) = .ok (hexPair byte) := by
    simpa using sliced_hexPairs front [byte] back
  rw [hexByte, part]
  change orReturn (u8FromHex (hexPair byte)) = _
  rw [u8FromHex_hexPair]
  rfl

theorem decodeIpv4_hexPairs (a b c d : UInt8) :
    decodeIpv4 ([d, c, b, a].flatMap hexPair) = .ok s!"{a}.{b}.{c}.{d}" := by
  have b0 := hexByte_hexPairs [] d [c, b, a]
  have b1 := hexByte_hexPairs [d] c [b, a]
  have b2 := hexByte_hexPairs [d, c] b [a]
  have b3 := hexByte_hexPairs [d, c, b] a []
  simp only [List.nil_append, List.cons_append, List.length_nil, List.length_cons, Nat.reduceAdd,
    Nat.reduceMul] at b0 b1 b2 b3
  simp only [decodeIpv4, List.mapM_cons, List.mapM_nil, Nat.reduceMul, Nat.reduceAdd, b0, b1, b2,
    b3]
  rfl

theorem decodeChunk_hexPairs {front : List UInt8} {chunk : Nat} (length : front.length = 4 * chunk)
    (b0 b1 b2 b3 : UInt8) (back : List UInt8) (bytes : Ipv6Addr) :
    decodeChunk ((front ++ ([b3, b2, b1, b0] ++ back)).flatMap hexPair) bytes chunk =
      .ok ((((bytes.setIfInBounds (chunk * 4) b0).setIfInBounds (chunk * 4 + 1) b1).setIfInBounds
        (chunk * 4 + 2) b2).setIfInBounds (chunk * 4 + 3) b3) := by
  have word := sliced_hexPairs front [b3, b2, b1, b0] back
  have first : 2 * front.length = chunk * 8 := by omega
  rw [first] at word
  simp only [List.length_cons, List.length_nil, Nat.reduceAdd, Nat.reduceMul] at word
  have r0 := hexByte_hexPairs [b3, b2, b1] b0 []
  have r1 := hexByte_hexPairs [b3, b2] b1 [b0]
  have r2 := hexByte_hexPairs [b3] b2 [b1, b0]
  have r3 := hexByte_hexPairs [] b3 [b2, b1, b0]
  simp only [List.nil_append, List.cons_append, List.length_nil, List.length_cons, Nat.reduceAdd,
    Nat.reduceMul] at r0 r1 r2 r3
  simp only [decodeChunk, word, bind, Except.bind, r0, r1, r2, r3]
  rfl

variable (display : Ipv6Addr → String)

/-- The bytes of an address as the kernel prints its words. -/
def printedBytes (a : Ipv6Addr) : List UInt8 :=
  [a[3], a[2], a[1], a[0]] ++ ([a[7], a[6], a[5], a[4]] ++
    ([a[11], a[10], a[9], a[8]] ++ ([a[15], a[14], a[13], a[12]] ++ [])))

def loaded (a : Ipv6Addr) (count : Nat) : Ipv6Addr :=
  Vector.ofFn fun index => if index.val < count then a[index] else 0

theorem setIfInBounds_loaded (a : Ipv6Addr) {count : Nat} (room : count < 16) :
    (loaded a count).setIfInBounds count a[count] = loaded a (count + 1) := by
  ext index bound
  rw [Vector.getElem_setIfInBounds]
  simp only [loaded, Vector.getElem_ofFn]
  split
  · rename_i here
    subst here
    simp
  · rename_i other
    have same : index < count + 1 ↔ index < count := by omega
    simp [same]

theorem loaded_zero (a : Ipv6Addr) : loaded a 0 = Vector.replicate 16 0 := by
  ext index bound
  simp [loaded]

theorem loaded_full (a : Ipv6Addr) : loaded a 16 = a := by
  ext index bound
  simp [loaded]

theorem decodeChunk_loaded (a : Ipv6Addr) {front : List UInt8} {chunk : Nat} (room : chunk < 4)
    (length : front.length = 4 * chunk) (back : List UInt8) :
    decodeChunk ((front ++ ([a[chunk * 4 + 3], a[chunk * 4 + 2], a[chunk * 4 + 1], a[chunk * 4]] ++
        back)).flatMap hexPair) (loaded a (chunk * 4)) chunk =
      .ok (loaded a ((chunk + 1) * 4)) := by
  rw [decodeChunk_hexPairs length, setIfInBounds_loaded a (by omega),
    setIfInBounds_loaded a (by omega), setIfInBounds_loaded a (by omega),
    setIfInBounds_loaded a (by omega), Nat.succ_mul]

theorem decodeIpv6_hexPairs (a : Ipv6Addr) :
    decodeIpv6 display ((printedBytes a).flatMap hexPair) = .ok (display a) := by
  have w0 : decodeChunk ((printedBytes a).flatMap hexPair) (loaded a 0) 0 = .ok (loaded a 4) :=
    @decodeChunk_loaded a [] 0 (by decide) rfl _
  have w1 : decodeChunk ((printedBytes a).flatMap hexPair) (loaded a 4) 1 = .ok (loaded a 8) :=
    @decodeChunk_loaded a [a[3], a[2], a[1], a[0]] 1 (by decide) rfl _
  have w2 : decodeChunk ((printedBytes a).flatMap hexPair) (loaded a 8) 2 = .ok (loaded a 12) :=
    @decodeChunk_loaded a ([a[3], a[2], a[1], a[0]] ++ [a[7], a[6], a[5], a[4]]) 2 (by decide) rfl _
  have w3 : decodeChunk ((printedBytes a).flatMap hexPair) (loaded a 12) 3 = .ok (loaded a 16) :=
    @decodeChunk_loaded a ([a[3], a[2], a[1], a[0]] ++ [a[7], a[6], a[5], a[4]] ++
      [a[11], a[10], a[9], a[8]]) 3 (by decide) rfl _
  rw [decodeIpv6, ← loaded_zero a]
  simp only [List.foldlM_cons, List.foldlM_nil, bind, Except.bind, w0, w1, w2, w3]
  rw [pure, loaded_full]
  rfl

end Decode

section Endpoint

theorem procNetAddr_v4 (a : Ipv4Addr) :
    procNetAddr (.v4 a) = [a[3], a[2], a[1], a[0]].flatMap hexPair :=
  printHex_hostWord _ _ _ _

theorem procNetAddr_v6 (a : Ipv6Addr) : procNetAddr (.v6 a) = (printedBytes a).flatMap hexPair := by
  rw [procNetAddr, printHex_hostWord, printHex_hostWord, printHex_hostWord, printHex_hostWord,
    ← List.flatMap_append, ← List.flatMap_append, ← List.flatMap_append]
  rfl

theorem colon_not_mem_hexPairs (bytes : List UInt8) : ':' ∉ bytes.flatMap hexPair := by
  intro member
  obtain ⟨byte, -, inside⟩ := List.mem_flatMap.mp member
  have bound := byte.toNat_lt
  have high := (hexDigit_plain (show byte.toNat / 16 < 16 by omega)).2.1
  have low := (hexDigit_plain (show byte.toNat % 16 < 16 by omega)).2.1
  simp only [hexPair, List.map_cons, List.map_nil, List.mem_cons, List.not_mem_nil, or_false]
    at inside
  rcases inside with eq | eq
  · exact high eq.symm
  · exact low eq.symm

variable (display : Ipv6Addr → String)

theorem parseLocalEndpoint_procNet (addr : IpAddr) (port : UInt16) :
    parseLocalEndpoint display (procNetEndpoint addr port) = .ok (addr.text display, port) := by
  cases addr with
  | v4 a =>
    have length : byteLen ([a[3], a[2], a[1], a[0]].flatMap hexPair) = 8 := byteLen_hexPairs _
    simp only [parseLocalEndpoint, procNetEndpoint, procNetAddr_v4,
      splitOnce_of_not_mem (colon_not_mem_hexPairs _), u16FromHex_printHex, orReturn, length, if_true,
      decodeIpv4_hexPairs, bind, Except.bind]
    rfl
  | v6 a =>
    have length : byteLen ((printedBytes a).flatMap hexPair) = 32 := byteLen_hexPairs _
    simp only [parseLocalEndpoint, procNetEndpoint, procNetAddr_v6,
      splitOnce_of_not_mem (colon_not_mem_hexPairs _), u16FromHex_printHex, orReturn, length,
      Nat.reduceEqDiff, if_false, if_true, decodeIpv6_hexPairs, bind, Except.bind]
    rfl

end Endpoint

section Text

theorem intercalate_inj {separator : Char} {left right : List (List Char)}
    (leftPlain : ∀ part ∈ left, separator ∉ part) (leftSome : left ≠ [])
    (rightPlain : ∀ part ∈ right, separator ∉ part) (rightSome : right ≠ [])
    (same : [separator].intercalate left = [separator].intercalate right) : left = right := by
  have split := congrArg (List.splitOn separator) same
  rw [List.splitOn_intercalate separator leftPlain leftSome,
    List.splitOn_intercalate separator rightPlain rightSome] at split
  exact split

theorem toDigits_plain {value : Nat} {separator : Char} (punctuation : separator.isDigit = false) :
    separator ∉ Nat.toDigits 10 value := by
  intro member
  rw [Nat.isDigit_of_mem_toDigits (by decide) (by decide) member] at punctuation
  contradiction

theorem octet_inj {left right : UInt8} (same : Nat.toDigits 10 left.toNat = Nat.toDigits 10 right.toNat) :
    left = right := by
  have values := congrArg (fun digits => Nat.ofDigitChars 10 digits 0) same
  simp only [Nat.ofDigitChars_ten_toDigits] at values
  exact UInt8.toNat_inj.mp values

def dottedParts (a : Ipv4Addr) : List (List Char) :=
  [a[0], a[1], a[2], a[3]].map fun octet => Nat.toDigits 10 octet.toNat

theorem toList_toString_octet (octet : UInt8) :
    (toString octet).toList = Nat.toDigits 10 octet.toNat :=
  Nat.toList_repr

theorem toList_text_v4 (display : Ipv6Addr → String) (a : Ipv4Addr) :
    ((IpAddr.v4 a).text display).toList = ['.'].intercalate (dottedParts a) := by
  have dot : (toString ".").toList = ['.'] := rfl
  simp [IpAddr.text, dottedParts, toList_toString_octet, dot, List.intercalate]

theorem text_v4_inj {display : Ipv6Addr → String} {a b : Ipv4Addr}
    (same : (IpAddr.v4 a).text display = (IpAddr.v4 b).text display) : a = b := by
  have plain : ∀ octets : Ipv4Addr, ∀ part ∈ dottedParts octets, '.' ∉ part := by
    intro octets part member
    obtain ⟨octet, -, rfl⟩ := List.mem_map.mp member
    exact toDigits_plain (by decide)
  have joined : ['.'].intercalate (dottedParts a) = ['.'].intercalate (dottedParts b) := by
    rw [← toList_text_v4 display, ← toList_text_v4 display, same]
  have parts := intercalate_inj (plain a) (by simp [dottedParts]) (plain b) (by simp [dottedParts])
    joined
  simp only [dottedParts, List.map_cons, List.map_nil, List.cons.injEq, and_true] at parts
  obtain ⟨p0, p1, p2, p3⟩ := parts
  ext index bound
  rcases index with _ | _ | _ | _ | index
  · exact congrArg UInt8.toNat (octet_inj p0)
  · exact congrArg UInt8.toNat (octet_inj p1)
  · exact congrArg UInt8.toNat (octet_inj p2)
  · exact congrArg UInt8.toNat (octet_inj p3)
  · omega

theorem colon_not_mem_text_v4 (display : Ipv6Addr → String) (a : Ipv4Addr) :
    ':' ∉ ((IpAddr.v4 a).text display).toList := by
  have digits : ∀ octet : UInt8, ':' ∉ Nat.toDigits 10 octet.toNat := by
    intro octet
    exact toDigits_plain (by decide)
  rw [toList_text_v4]
  simp [dottedParts, List.intercalate, digits]

theorem text_inj {display : Ipv6Addr → String} (injective : Function.Injective display)
    (colons : ∀ a, ':' ∈ (display a).toList) {left right : IpAddr}
    (same : left.text display = right.text display) : left = right := by
  cases left with
  | v4 a =>
    cases right with
    | v4 b => rw [text_v4_inj same]
    | v6 b =>
      have colon := colons b
      have dotted := colon_not_mem_text_v4 display a
      rw [same] at dotted
      exact absurd colon dotted
  | v6 a =>
    cases right with
    | v4 b =>
      have colon := colons a
      have dotted := colon_not_mem_text_v4 display b
      rw [← same] at dotted
      exact absurd colon dotted
    | v6 b => rw [injective same]

end Text

/-- The decoder inverts the kernel's format; with texts that differ for different addresses, so do
    its results. -/
theorem endpoint_decoding_inverts_kernel (display : Ipv6Addr → String)
    (injective : Function.Injective display) (colons : ∀ a, ':' ∈ (display a).toList) :
    (∀ addr port, parseLocalEndpoint display (procNetEndpoint addr port) =
      .ok (addr.text display, port)) ∧
      ∀ addr port otherAddr otherPort,
        parseLocalEndpoint display (procNetEndpoint addr port) =
            parseLocalEndpoint display (procNetEndpoint otherAddr otherPort) →
          addr = otherAddr ∧ port = otherPort := by
  refine ⟨parseLocalEndpoint_procNet display, ?_⟩
  intro addr port otherAddr otherPort same
  rw [parseLocalEndpoint_procNet, parseLocalEndpoint_procNet, Except.ok.injEq, Prod.mk.injEq]
    at same
  exact ⟨text_inj injective colons same.1, same.2⟩

section Plain

def groupText (a : Ipv6Addr) (group : Fin 8) : List Char :=
  [a[2 * group.val], a[2 * group.val + 1]].flatMap fun octet =>
    [Nat.digitChar (octet.toNat / 16), Nat.digitChar (octet.toNat % 16)]

/-- What `Display` writes for an address whose groups have four digits each. -/
def plainDisplay (a : Ipv6Addr) : String :=
  String.ofList ([':'].intercalate (List.ofFn (groupText a)))

theorem digitChar_plain : ∀ digit < 16, Nat.digitChar digit ≠ ':' ∧
    ∀ other < 16, Nat.digitChar digit = Nat.digitChar other → digit = other := by
  decide

theorem octet_of_digits {left right : UInt8}
    (high : Nat.digitChar (left.toNat / 16) = Nat.digitChar (right.toNat / 16))
    (low : Nat.digitChar (left.toNat % 16) = Nat.digitChar (right.toNat % 16)) : left = right := by
  have leftBound := left.toNat_lt
  have rightBound := right.toNat_lt
  have quotients := (digitChar_plain _ (by omega)).2 _ (by omega) high
  have remainders := (digitChar_plain _ (by omega)).2 _ (by omega) low
  apply UInt8.toNat_inj.mp
  omega

theorem colon_not_mem_groupText (a : Ipv6Addr) (group : Fin 8) : ':' ∉ groupText a group := by
  intro member
  obtain ⟨octet, -, inside⟩ := List.mem_flatMap.mp member
  have bound := octet.toNat_lt
  simp only [List.mem_cons, List.not_mem_nil, or_false] at inside
  rcases inside with eq | eq
  · exact (digitChar_plain _ (by omega)).1 eq.symm
  · exact (digitChar_plain _ (by omega)).1 eq.symm

theorem plainDisplay_injective : Function.Injective plainDisplay := by
  intro left right same
  have plain : ∀ a : Ipv6Addr, ∀ part ∈ List.ofFn (groupText a), ':' ∉ part := by
    intro a part member
    obtain ⟨group, rfl⟩ := (List.mem_ofFn' _ _).mp member
    exact colon_not_mem_groupText a group
  have joined := String.ofList_injective same
  have parts := intercalate_inj (plain left) (by simp) (plain right) (by simp) joined
  have groups : ∀ group : Fin 8, left[2 * group.val] = right[2 * group.val] ∧
      left[2 * group.val + 1] = right[2 * group.val + 1] := by
    intro group
    have text := congrFun (List.ofFn_injective parts) group
    simp only [groupText, List.flatMap_cons, List.flatMap_nil, List.cons_append, List.nil_append,
      List.append_nil, List.cons.injEq, and_true] at text
    obtain ⟨h0, l0, h1, l1⟩ := text
    exact ⟨octet_of_digits h0 l0, octet_of_digits h1 l1⟩
  ext index bound
  have pair := groups ⟨index / 2, by omega⟩
  rcases Nat.mod_two_eq_zero_or_one index with even | odd
  · have at_even : 2 * (index / 2) = index := by omega
    simpa only [at_even] using congrArg UInt8.toNat pair.1
  · have at_odd : 2 * (index / 2) + 1 = index := by omega
    simpa only [at_odd] using congrArg UInt8.toNat pair.2

theorem colon_mem_plainDisplay (a : Ipv6Addr) : ':' ∈ (plainDisplay a).toList := by
  simp [plainDisplay, List.intercalate, List.ofFn_succ]

end Plain

/-- The address `2001:1db8:1a2b:3c4d:5e6f:7081:92a3:b4c5`. -/
def documentationAddr : Ipv6Addr :=
  #v[0x20, 0x01, 0x1d, 0xb8, 0x1a, 0x2b, 0x3c, 0x4d, 0x5e, 0x6f, 0x70, 0x81, 0x92, 0xa3, 0xb4, 0xc5]

theorem documentation_endpoint_is_decoded :
    parseLocalEndpoint plainDisplay (procNetEndpoint (.v6 documentationAddr) 60001) =
      .ok ("2001:1db8:1a2b:3c4d:5e6f:7081:92a3:b4c5", 60001) := by
  have decoded := (endpoint_decoding_inverts_kernel plainDisplay plainDisplay_injective
    colon_mem_plainDisplay).1 (.v6 documentationAddr) 60001
  have text : (IpAddr.v6 documentationAddr).text plainDisplay =
      "2001:1db8:1a2b:3c4d:5e6f:7081:92a3:b4c5" := by decide
  rw [decoded, text]

end Moshwatch
