import Agentme.Net.Addr

/-! Extracting the IP literal of a multiaddr. A segment is an IP literal when the
standard `IpAddr` parser accepts it whole; that parser is modelled as it reads
its input, with a parse state that is the rest of the input. -/

namespace Agentme

/-- `char::to_digit(radix)`. -/
def charToDigit (radix : Nat) (c : Char) : Option Nat :=
  let d := if c.isDigit then c.toNat - 48
    else if c.isLower then c.toNat - 87
    else if c.isUpper then c.toNat - 55
    else radix
  if d < radix then some d else none

/-- The digit loop of `read_number`: reads digits while they come, and fails once
more than `maxDigits` of them have been read. Returns the value, the count of
digits and the rest of the input. -/
def readDigits (radix maxDigits : Nat) : Nat → Nat → List Char → Option (Nat × Nat × List Char)
  | value, count, [] => some (value, count, [])
  | value, count, c :: cs =>
    match charToDigit radix c with
    | some d =>
      if count + 1 > maxDigits then none
      else readDigits radix maxDigits (value * radix + d) (count + 1) cs
    | none => some (value, count, c :: cs)

/-- `read_number(radix, Some(maxDigits), allowZeroPrefix)` into an integer type
whose values are below `bound`. -/
def readNumber (radix maxDigits : Nat) (allowZeroPrefix : Bool) (bound : Nat) (s : List Char) :
    Option (Nat × List Char) :=
  match readDigits radix maxDigits 0 0 s with
  | none => none
  | some (value, count, rest) =>
    if count = 0 then none
    else if !allowZeroPrefix && s.head? == some '0' && count > 1 then none
    else if value < bound then some (value, rest) else none

/-- `read_given_char`. -/
def readGivenChar (target : Char) : List Char → Option (List Char)
  | c :: cs => if c = target then some cs else none
  | [] => none

/-- `read_separator(sep, index, inner)`: the separator is read before every
element but the first. -/
def readSeparator {α : Type} (sep : Char) (index : Nat) (inner : List Char → Option (α × List Char))
    (s : List Char) : Option (α × List Char) :=
  if index > 0 then (readGivenChar sep s).bind inner else inner s

/-- `read_ipv4_addr`: four decimal octets of at most three digits, without a
leading zero. -/
def readIpv4Addr (s : List Char) : Option ((UInt8 × UInt8 × UInt8 × UInt8) × List Char) := do
  let (a, s) ← readSeparator '.' 0 (readNumber 10 3 false 256) s
  let (b, s) ← readSeparator '.' 1 (readNumber 10 3 false 256) s
  let (c, s) ← readSeparator '.' 2 (readNumber 10 3 false 256) s
  let (d, s) ← readSeparator '.' 3 (readNumber 10 3 false 256) s
  pure ((a.toUInt8, b.toUInt8, c.toUInt8, d.toUInt8), s)

/-- `read_groups` of `read_ipv6_addr`, from slot `i` with `n` slots left: the
groups read, whether an embedded IPv4 address ended them, and the rest of the
input. An IPv4 address is tried first while two slots are left. -/
def readGroups : Nat → Nat → List Char → List Nat × Bool × List Char
  | _, 0, s => ([], false, s)
  | i, n + 1, s =>
    match (if n ≥ 1 then readSeparator ':' i readIpv4Addr s else none) with
    | some ((a, b, c, d), rest) =>
      ([a.toNat * 256 + b.toNat, c.toNat * 256 + d.toNat], true, rest)
    | none =>
      match readSeparator ':' i (readNumber 16 4 true 65536) s with
      | some (g, rest) =>
        let r := readGroups (i + 1) n rest
        (g :: r.1, r.2.1, r.2.2)
      | none => ([], false, s)

/-- The 128 bits of eight 16-bit groups, the first group most significant. -/
def groupsToBits (groups : List Nat) : BitVec 128 :=
  BitVec.ofNat 128 (groups.foldl (fun acc g => acc * 65536 + g) 0)

/-- `read_ipv6_addr`: a head of groups, then, unless the head has all eight, `::`
and a tail; the groups between them are zero. -/
def readIpv6Addr (s : List Char) : Option (BitVec 128 × List Char) :=
  let (head, headIpv4, s) := readGroups 0 8 s
  if head.length = 8 then some (groupsToBits head, s)
  else if headIpv4 then none
  else do
    let s ← readGivenChar ':' s
    let s ← readGivenChar ':' s
    let (tail, _, s) := readGroups 0 (8 - (head.length + 1)) s
    pure (groupsToBits (head ++ List.replicate (8 - head.length - tail.length) 0 ++ tail), s)

/-- `str::parse::<IpAddr>`: an IPv4 address, else an IPv6 address, and nothing
may follow it. -/
def parseIpAddr (s : List Char) : Option IpAddr :=
  match readIpv4Addr s with
  | some ((a, b, c, d), rest) => if rest = [] then some (.v4 a b c d) else none
  | none =>
    match readIpv6Addr s with
    | some (bits, rest) => if rest = [] then some (.v6 bits) else none
    | none => none

/-- `str::split('/')`: the segments between the slashes, empty ones included. -/
def splitSegments : List Char → List (List Char)
  | [] => [[]]
  | c :: cs =>
    match splitSegments cs with
    | [] => [[c]]
    | seg :: segs => if c = '/' then [] :: seg :: segs else (c :: seg) :: segs

/-- `extract_ip_from_multiaddr`: the first `/`-separated segment that parses as an
IP address. -/
def extractIpFromMultiaddr (addr : String) : Option IpAddr :=
  (splitSegments addr.toList).findSome? parseIpAddr

example : extractIpFromMultiaddr "/ip4/192.168.1.100/tcp/9000/p2p/12D3KooWTest" =
    some (.v4 192 168 1 100) := by decide

example : extractIpFromMultiaddr "/ip6/::1/tcp/9000/p2p/12D3KooWTest" = some (.v6 1) := by decide

example : extractIpFromMultiaddr "/dns4/example.com/tcp/9000" = none := by decide

/-! ### Dotted-decimal IPv4 literals are found -/

/-- The dotted-decimal text of an IPv4 address, as `Display` writes it. -/
def ipv4Text (a b c d : UInt8) : List Char :=
  Nat.toDigits 10 a.toNat ++ '.' :: (Nat.toDigits 10 b.toNat ++ '.' :: (Nat.toDigits 10 c.toNat ++
    '.' :: Nat.toDigits 10 d.toNat))

theorem toDigits_of_lt_256 {n : Nat} (h : n < 256) :
    Nat.toDigits 10 n =
      (if n < 10 then [] else if n < 100 then [Nat.digitChar (n / 10)]
        else [Nat.digitChar (n / 100), Nat.digitChar (n / 10 % 10)]) ++ [Nat.digitChar (n % 10)] := by
  rcases Nat.lt_or_ge n 10 with h1 | h1
  · simp [Nat.toDigits, Nat.toDigitsCore, Nat.div_eq_of_lt h1, h1, Nat.mod_eq_of_lt h1]
  obtain ⟨m, rfl⟩ : ∃ m, n = m + 1 := ⟨n - 1, by omega⟩
  rcases Nat.lt_or_ge (m + 1) 100 with h2 | h2
  · simp [Nat.toDigits, Nat.toDigitsCore, h2, Nat.not_lt.mpr h1, show (m + 1) / 10 / 10 = 0 by omega,
      show (m + 1) / 10 ≠ 0 by omega, Nat.mod_eq_of_lt (show (m + 1) / 10 < 10 by omega)]
  · obtain ⟨k, rfl⟩ : ∃ k, m = k + 1 := ⟨m - 1, by omega⟩
    simp [Nat.toDigits, Nat.toDigitsCore, Nat.not_lt.mpr h1, Nat.not_lt.mpr h2, Nat.div_div_eq_div_mul,
      show (k + 1 + 1) / 10 ≠ 0 by omega, show (k + 1 + 1) / 100 ≠ 0 by omega,
      show (k + 1 + 1) / 1000 = 0 by omega, Nat.mod_eq_of_lt (show (k + 1 + 1) / 100 < 10 by omega)]

theorem charToDigit_digitChar : ∀ k < 10, charToDigit 10 (Nat.digitChar k) = some k := by decide

theorem digitChar_ne_zero : ∀ k < 10, 0 < k → Nat.digitChar k ≠ '0' := by decide

theorem readDigits_of_stop {radix maxDigits v c : Nat} {rest : List Char}
    (hrest : ∀ y ∈ rest.head?, charToDigit radix y = none) :
    readDigits radix maxDigits v c rest = some (v, c, rest) := by
  cases rest with
  | nil => rfl
  | cons y ys => simp [readDigits, hrest y rfl]

theorem readNumber_toDigits_append {n : Nat} (hn : n < 256) {rest : List Char}
    (hrest : ∀ y ∈ rest.head?, charToDigit 10 y = none) :
    readNumber 10 3 false 256 (Nat.toDigits 10 n ++ rest) = some (n, rest) := by
  have h0 := charToDigit_digitChar (n % 10) (Nat.mod_lt _ (by decide))
  rw [toDigits_of_lt_256 hn]
  split_ifs with h1 h2
  · rw [Nat.mod_eq_of_lt h1] at h0 ⊢
    simp [readNumber, readDigits, h0, readDigits_of_stop hrest, hn]
  · have h10 := charToDigit_digitChar (n / 10) (by omega)
    have hz := digitChar_ne_zero (n / 10) (by omega) (by omega)
    simp [readNumber, readDigits, h0, h10, hz, readDigits_of_stop hrest, hn]
    omega
  · have h100 := charToDigit_digitChar (n / 100) (by omega)
    have h10 := charToDigit_digitChar (n / 10 % 10) (Nat.mod_lt _ (by decide))
    have hz := digitChar_ne_zero (n / 100) (by omega) (by omega)
    simp [readNumber, readDigits, h0, h10, h100, hz, readDigits_of_stop hrest, hn]
    omega

theorem ofNat_toNat_uint8 (a : UInt8) : Nat.toUInt8 a.toNat = a :=
  UInt8.toNat.inj (UInt8.toNat_ofNat_of_lt a.toNat_lt)

theorem readIpv4Addr_ipv4Text (a b c d : UInt8) {rest : List Char}
    (hrest : ∀ y ∈ rest.head?, charToDigit 10 y = none) :
    readIpv4Addr (ipv4Text a b c d ++ rest) = some ((a, b, c, d), rest) := by
  have hdot : ∀ tail : List Char, ∀ y ∈ ('.' :: tail).head?, charToDigit 10 y = none := by
    rintro tail y ⟨⟩; decide
  simp only [ipv4Text, List.append_assoc, List.cons_append]
  simp [readIpv4Addr, readSeparator, readGivenChar,
    readNumber_toDigits_append a.toNat_lt (hdot _),
    readNumber_toDigits_append b.toNat_lt (hdot _),
    readNumber_toDigits_append c.toNat_lt (hdot _),
    readNumber_toDigits_append d.toNat_lt hrest, ofNat_toNat_uint8]

theorem parseIpAddr_ipv4Text (a b c d : UInt8) : parseIpAddr (ipv4Text a b c d) = some (.v4 a b c d) := by
  have h : readIpv4Addr (ipv4Text a b c d ++ []) = some ((a, b, c, d), []) :=
    readIpv4Addr_ipv4Text a b c d (fun _ h => nomatch h)
  rw [List.append_nil] at h
  simp [parseIpAddr, h]

theorem splitSegments_ne_nil (s : List Char) : splitSegments s ≠ [] := by
  cases s with
  | nil => simp [splitSegments]
  | cons c cs =>
    simp only [splitSegments]
    split
    · simp
    · split <;> simp

theorem splitSegments_append_slash {xs : List Char} (ys : List Char) (h : '/' ∉ xs) :
    splitSegments (xs ++ '/' :: ys) = xs :: splitSegments ys := by
  induction xs with
  | nil =>
    obtain ⟨seg, segs, hs⟩ := List.exists_cons_of_ne_nil (splitSegments_ne_nil ys)
    simp [splitSegments, hs]
  | cons x xs ih =>
    have hx : x ≠ '/' := fun hx => h (hx ▸ List.mem_cons_self _ _)
    simp [splitSegments, ih (fun hm => h (List.mem_cons_of_mem _ hm)), hx]

theorem splitSegments_of_not_mem {xs : List Char} (h : '/' ∉ xs) : splitSegments xs = [xs] := by
  induction xs with
  | nil => rfl
  | cons x xs ih =>
    have hx : x ≠ '/' := fun hx => h (hx ▸ List.mem_cons_self _ _)
    simp [splitSegments, ih (fun hm => h (List.mem_cons_of_mem _ hm)), hx]

theorem slash_not_mem_toDigits {n : Nat} (hn : n < 256) : '/' ∉ Nat.toDigits 10 n := by
  have hd : ∀ k < 10, Nat.digitChar k ≠ '/' := by decide
  intro hm
  rw [toDigits_of_lt_256 hn] at hm
  split_ifs at hm <;>
    simp only [List.nil_append, List.cons_append, List.mem_cons, List.mem_singleton, List.not_mem_nil,
      or_false] at hm
  · exact hd _ (by omega) hm.symm
  · rcases hm with h | h <;> exact hd _ (by omega) h.symm
  · rcases hm with h | h | h <;> exact hd _ (by omega) h.symm

theorem slash_not_mem_ipv4Text (a b c d : UInt8) : '/' ∉ ipv4Text a b c d := by
  simp [ipv4Text, slash_not_mem_toDigits a.toNat_lt, slash_not_mem_toDigits b.toNat_lt,
    slash_not_mem_toDigits c.toNat_lt, slash_not_mem_toDigits d.toNat_lt]

/-- Every IPv4 address written in dotted decimal after `/ip4/` is found, whether the
multiaddr ends there or goes on with further `/`-separated parts. -/
theorem ip4_multiaddr_round_trip (a b c d : UInt8) (more : String) :
    extractIpFromMultiaddr ("/ip4/" ++ ⟨ipv4Text a b c d⟩) = some (.v4 a b c d) ∧
      extractIpFromMultiaddr ("/ip4/" ++ ⟨ipv4Text a b c d⟩ ++ "/" ++ more) = some (.v4 a b c d) := by
  have hp := parseIpAddr_ipv4Text a b c d
  have hs := slash_not_mem_ipv4Text a b c d
  have hip4 : parseIpAddr ['i', 'p', '4'] = none := by decide
  have hnil : parseIpAddr [] = none := by decide
  have hsplit : ∀ rest, splitSegments ('/' :: 'i' :: 'p' :: '4' :: '/' :: rest) =
      [] :: ['i', 'p', '4'] :: splitSegments rest := fun rest =>
    (splitSegments_append_slash _ (List.not_mem_nil '/')).trans
      (congrArg _ (splitSegments_append_slash _ (show '/' ∉ ['i', 'p', '4'] by decide)))
  constructor
  · simp [extractIpFromMultiaddr, String.toList, hsplit, splitSegments_of_not_mem hs, hp, hip4, hnil]
  · simp [extractIpFromMultiaddr, String.toList, hsplit, splitSegments_append_slash _ hs, hp, hip4,
      hnil]

/-! ### Every accepted IPv4 literal is dotted decimal -/

theorem digitChar_eq_ofNat : ∀ d < 10, Nat.digitChar d = Char.ofNat (48 + d) := by decide

theorem charToDigit_eq_some {c : Char} {d : Nat} (h : charToDigit 10 c = some d) :
    d < 10 ∧ c = Nat.digitChar d := by
  have hd : ∀ x, (if x < 10 then some x else none) = some d → x = d ∧ d < 10 := by
    intro x hx
    split_ifs at hx with hlt
    · cases hx; exact ⟨rfl, hlt⟩
  unfold charToDigit at h
  dsimp only at h
  by_cases h1 : c.isDigit = true
  · rw [if_pos h1] at h
    obtain ⟨rfl, hlt⟩ := hd _ h
    simp only [Char.isDigit, Char.le_def, UInt32.le_def, Bool.and_eq_true, decide_eq_true_eq] at h1
    have h48 : 48 ≤ c.toNat := by simpa [Char.toNat] using h1.1
    rw [digitChar_eq_ofNat _ hlt, Nat.add_sub_cancel' h48, Char.ofNat_toNat]
    exact ⟨hlt, rfl⟩
  · rw [if_neg h1] at h
    by_cases h2 : c.isLower = true
    · rw [if_pos h2] at h
      obtain ⟨rfl, hlt⟩ := hd _ h
      simp only [Char.isLower, Char.le_def, UInt32.le_def, Bool.and_eq_true, decide_eq_true_eq] at h2
      have : 97 ≤ c.toNat := by simpa [Char.toNat] using h2.1
      omega
    · rw [if_neg h2] at h
      by_cases h3 : c.isUpper = true
      · rw [if_pos h3] at h
        obtain ⟨rfl, hlt⟩ := hd _ h
        simp only [Char.isUpper, Char.le_def, UInt32.le_def, Bool.and_eq_true, decide_eq_true_eq] at h3
        have : 65 ≤ c.toNat := by simpa [Char.toNat] using h3.1
        omega
      · rw [if_neg h3] at h
        obtain ⟨rfl, hlt⟩ := hd _ h
        exact absurd hlt (lt_irrefl _)

theorem readDigits_eq_some {maxDigits : Nat} : ∀ {s : List Char} {v c v' c' : Nat} {rest : List Char},
    readDigits 10 maxDigits v c s = some (v', c', rest) →
    ∃ ds : List Nat, (∀ d ∈ ds, d < 10) ∧ s = ds.map Nat.digitChar ++ rest ∧ c' = c + ds.length ∧
      (ds = [] ∨ c' ≤ maxDigits) ∧ v' = ds.foldl (fun acc d => acc * 10 + d) v ∧
      ∀ y ∈ rest.head?, charToDigit 10 y = none
  | [], v, c, v', c', rest, h => by
    cases h
    exact ⟨[], by simp, rfl, rfl, .inl rfl, rfl, fun _ h => nomatch h⟩
  | x :: xs, v, c, v', c', rest, h => by
    unfold readDigits at h
    cases hx : charToDigit 10 x with
    | none =>
      rw [hx] at h
      cases h
      exact ⟨[], by simp, rfl, rfl, .inl rfl, rfl, fun y hy => by cases hy; exact hx⟩
    | some d =>
      rw [hx] at h
      dsimp only at h
      split_ifs at h with hc
      obtain ⟨hd, rfl⟩ := charToDigit_eq_some hx
      obtain ⟨ds, hds, rfl, rfl, hmax, rfl, hrest⟩ := readDigits_eq_some h
      refine ⟨d :: ds, ?_, rfl, by simp; omega, .inr ?_, rfl, hrest⟩
      · simpa [hd] using hds
      · rcases hmax with rfl | hmax <;> simp at * <;> omega

theorem readNumber_eq_some {s rest : List Char} {v : Nat} (h : readNumber 10 3 false 256 s = some (v, rest)) :
    v < 256 ∧ s = Nat.toDigits 10 v ++ rest ∧ ∀ y ∈ rest.head?, charToDigit 10 y = none := by
  unfold readNumber at h
  split at h
  · cases h
  rename_i value count rest0 hr
  split_ifs at h with h0 hz hv
  cases h
  obtain ⟨ds, hds, rfl, rfl, hmax, rfl, hrest⟩ := readDigits_eq_some hr
  refine ⟨hv, ?_, hrest⟩
  rw [toDigits_of_lt_256 hv]
  have hzero : Nat.digitChar 0 = '0' := rfl
  match ds, hds, hmax with
  | [], _, _ => simp at h0
  | [d1], hds, _ =>
    have h1 := hds d1 (by simp)
    simp [h1, Nat.mod_eq_of_lt h1]
  | [d1, d2], hds, _ =>
    have h1 := hds d1 (by simp)
    have h2 := hds d2 (by simp)
    have hd1 : d1 ≠ 0 := by rintro rfl; simp [hzero] at hz
    simp only [List.foldl_cons, List.foldl_nil, Nat.zero_mul, Nat.zero_add] at hv ⊢
    rw [if_neg (by omega), if_pos (by omega), show (d1 * 10 + d2) / 10 = d1 by omega,
      show (d1 * 10 + d2) % 10 = d2 by omega]
    rfl
  | [d1, d2, d3], hds, _ =>
    have h1 := hds d1 (by simp)
    have h2 := hds d2 (by simp)
    have h3 := hds d3 (by simp)
    have hd1 : d1 ≠ 0 := by rintro rfl; simp [hzero] at hz
    simp only [List.foldl_cons, List.foldl_nil, Nat.zero_mul, Nat.zero_add] at hv ⊢
    rw [if_neg (by omega), if_neg (by omega), show (d1 * 10 + d2) * 10 + d3 = d1 * 100 + d2 * 10 + d3 by ring,
      show (d1 * 100 + d2 * 10 + d3) / 100 = d1 by omega, show (d1 * 100 + d2 * 10 + d3) / 10 % 10 = d2 by omega,
      show (d1 * 100 + d2 * 10 + d3) % 10 = d3 by omega]
    rfl
  | _ :: _ :: _ :: _ :: _, _, hmax => simp at hmax

theorem readGivenChar_eq_some {target : Char} {s r : List Char} :
    readGivenChar target s = some r ↔ s = target :: r := by
  cases s with
  | nil => simp [readGivenChar]
  | cons x xs => by_cases hx : x = target <;> simp [readGivenChar, hx]

theorem readIpv4Addr_eq_some {s rest : List Char} {a b c d : UInt8}
    (h : readIpv4Addr s = some ((a, b, c, d), rest)) : s = ipv4Text a b c d ++ rest := by
  simp only [readIpv4Addr, readSeparator, bind, Option.bind_eq_some, gt_iff_lt, Nat.lt_irrefl,
    if_false, Nat.ofNat_pos, Nat.zero_lt_one, if_true, readGivenChar_eq_some] at h
  obtain ⟨⟨a', s1⟩, h1, ⟨b', s2⟩, ⟨s1', rfl, h2⟩, ⟨c', s3⟩, ⟨s2', rfl, h3⟩, ⟨d', s4⟩, ⟨s3', rfl, h4⟩, h5⟩ := h
  simp only [pure, Option.some.injEq, Prod.mk.injEq] at h5
  obtain ⟨⟨rfl, rfl, rfl, rfl⟩, rfl⟩ := h5
  obtain ⟨ha, rfl, -⟩ := readNumber_eq_some h1
  obtain ⟨hb, rfl, -⟩ := readNumber_eq_some h2
  obtain ⟨hc, rfl, -⟩ := readNumber_eq_some h3
  obtain ⟨hd, rfl, -⟩ := readNumber_eq_some h4
  simp [ipv4Text, UInt8.toNat_ofNat_of_lt ha, UInt8.toNat_ofNat_of_lt hb, UInt8.toNat_ofNat_of_lt hc,
    UInt8.toNat_ofNat_of_lt hd]

/-- The IPv4 literals the parser accepts are exactly the dotted-decimal texts with
octets below 256 and no leading zeros: one text for each address. -/
theorem parse_ipv4_iff_dotted_decimal (s : List Char) (a b c d : UInt8) :
    parseIpAddr s = some (.v4 a b c d) ↔ s = ipv4Text a b c d := by
  refine ⟨fun h => ?_, fun h => h ▸ parseIpAddr_ipv4Text a b c d⟩
  unfold parseIpAddr at h
  split at h
  · rename_i a' b' c' d' rest hr
    split_ifs at h with hrest
    cases h
    simpa [hrest] using readIpv4Addr_eq_some hr
  · split at h
    · split_ifs at h; simp at h
    · cases h

end Agentme
