import Agentme.Net.Multiaddr

/-! Colon-hexadecimal IPv6 literals. Groups written in hexadecimal and separated
by colons are read back as the address of those groups when there are eight of
them, and a head and a tail around `::` are read back, the gap filled with zero
groups, when they hold at most seven groups between them; every other such text
is rejected. -/

namespace Agentme

/-! ### Hexadecimal digits -/

theorem toDigitsCore_append (b : Nat) : ∀ (f n : Nat) (ds es : List Char),
    Nat.toDigitsCore b f n (ds ++ es) = Nat.toDigitsCore b f n ds ++ es
  | 0, _, _, _ => rfl
  | f + 1, n, ds, es => by
    simp only [Nat.toDigitsCore]
    split_ifs
    · rfl
    · exact toDigitsCore_append b f _ (_ :: ds) es

theorem toDigitsCore_fuel {b : Nat} (hb : 1 < b) : ∀ {f f' : Nat} (n : Nat) (ds : List Char),
    n < f → n < f' → Nat.toDigitsCore b f n ds = Nat.toDigitsCore b f' n ds
  | 0, _, _, _, h, _ => absurd h (Nat.not_lt_zero _)
  | _, 0, _, _, _, h => absurd h (Nat.not_lt_zero _)
  | f + 1, f' + 1, n, ds, h, h' => by
    simp only [Nat.toDigitsCore]
    split_ifs with hn
    · rfl
    · have : n / b < n := Nat.div_lt_self (Nat.pos_of_ne_zero fun h0 => hn (by simp [h0])) hb
      exact toDigitsCore_fuel hb _ _ (by omega) (by omega)

/-- The last digit splits off: `Nat.toDigits` is the digits of the quotient, then
the digit of the remainder. -/
theorem toDigits_eq {b : Nat} (hb : 1 < b) (n : Nat) :
    Nat.toDigits b n =
      if n < b then [Nat.digitChar n] else Nat.toDigits b (n / b) ++ [Nat.digitChar (n % b)] := by
  unfold Nat.toDigits
  rw [Nat.toDigitsCore]
  split_ifs with h1 h2 h2
  · rw [Nat.mod_eq_of_lt h2]
  · exact absurd h1 (Nat.div_ne_zero_iff (by omega) |>.mpr (by omega))
  · simp [Nat.div_eq_of_lt h2] at h1
  · rw [show [Nat.digitChar (n % b)] = [] ++ [Nat.digitChar (n % b)] from rfl, toDigitsCore_append]
    exact congrArg (· ++ _) (toDigitsCore_fuel hb _ _ (Nat.div_lt_self (by omega) hb) (by omega))

theorem toDigits_ne_nil {b : Nat} (hb : 1 < b) (n : Nat) : Nat.toDigits b n ≠ [] := by
  rw [toDigits_eq hb]
  split_ifs <;> simp

theorem mem_toDigits {b : Nat} (hb : 1 < b) (n : Nat) {c : Char} (h : c ∈ Nat.toDigits b n) :
    ∃ k < b, Nat.digitChar k = c := by
  induction n using Nat.strong_induction_on with
  | _ n ih =>
    rw [toDigits_eq hb] at h
    split_ifs at h with hn
    · exact ⟨n, hn, (List.mem_singleton.mp h).symm⟩
    · rcases List.mem_append.mp h with h | h
      · exact ih _ (Nat.div_lt_self (by omega) hb) h
      · exact ⟨n % b, Nat.mod_lt _ (by omega), (List.mem_singleton.mp h).symm⟩

/-- The digit loop reads `Nat.toDigits` back, whatever value and count it has
accumulated, as long as the digits fit. -/
theorem readDigits_toDigits {radix : Nat} (hb : 1 < radix)
    (hd : ∀ k < radix, charToDigit radix (Nat.digitChar k) = some k) (n : Nat) :
    ∀ {m v c : Nat} {rest : List Char}, c + (Nat.toDigits radix n).length ≤ m →
      readDigits radix m v c (Nat.toDigits radix n ++ rest) =
        readDigits radix m (v * radix ^ (Nat.toDigits radix n).length + n)
          (c + (Nat.toDigits radix n).length) rest := by
  induction n using Nat.strong_induction_on with
  | _ n ih =>
    intro m v c rest hm
    rw [toDigits_eq hb] at hm ⊢
    split_ifs at hm ⊢ with hn
    · simp only [List.length_singleton, pow_one] at hm ⊢
      simp [readDigits, hd n hn, Nat.not_lt.mpr hm]
    · have hq : n / radix < n := Nat.div_lt_self (by omega) hb
      have hr := hd (n % radix) (Nat.mod_lt _ (by omega))
      simp only [List.length_append, List.length_singleton] at hm ⊢
      rw [List.append_assoc, List.singleton_append, ih _ hq (by omega)]
      simp only [readDigits, hr, show ¬c + (Nat.toDigits radix (n / radix)).length + 1 > m by omega,
        if_false]
      congr 1
      calc (v * radix ^ (Nat.toDigits radix (n / radix)).length + n / radix) * radix + n % radix
          = v * radix ^ ((Nat.toDigits radix (n / radix)).length + 1) +
              (radix * (n / radix) + n % radix) := by ring
        _ = _ := by rw [Nat.div_add_mod]

/-! ### Groups -/

/-- One group as `{:x}` writes it: lowercase hexadecimal, no leading zeros. -/
def hexGroup (g : UInt16) : List Char := Nat.toDigits 16 g.toNat

/-- Groups, each after a colon. -/
def colonGroups : List UInt16 → List Char
  | [] => []
  | g :: gs => ':' :: (hexGroup g ++ colonGroups gs)

/-- Groups separated by colons. -/
def groupsText : List UInt16 → List Char
  | [] => []
  | g :: gs => hexGroup g ++ colonGroups gs

/-- What follows a group: neither a hexadecimal digit nor a dot. -/
def Stops (s : List Char) : Prop := ∀ y ∈ s.head?, charToDigit 16 y = none ∧ y ≠ '.'

theorem stops_nil : Stops [] := fun _ h => nomatch h

theorem stops_colon (t : List Char) : Stops (':' :: t) := by
  rintro y ⟨⟩; decide

theorem stops_colonGroups_append (gs : List UInt16) {rest : List Char} (h : Stops rest) :
    Stops (colonGroups gs ++ rest) := by
  cases gs with
  | nil => exact h
  | cons g gs => exact stops_colon _

theorem colonGroups_append (gs gs' : List UInt16) :
    colonGroups (gs ++ gs') = colonGroups gs ++ colonGroups gs' := by
  induction gs with
  | nil => rfl
  | cons g gs ih => simp [colonGroups, ih]

theorem charToDigit_hex : ∀ k < 16, charToDigit 16 (Nat.digitChar k) = some k := by decide

theorem hexGroup_length_le (g : UInt16) : (hexGroup g).length ≤ 4 :=
  Nat.toDigitsCore_length 16 (by decide) _ _ 4 g.toNat_lt (by decide)

theorem hex_of_mem_hexGroup {g : UInt16} {x : Char} (h : x ∈ hexGroup g) :
    ∃ k < 16, Nat.digitChar k = x :=
  mem_toDigits (by decide) _ h

theorem readNumber_hexGroup (g : UInt16) {rest : List Char} (h : Stops rest) :
    readNumber 16 4 true 65536 (hexGroup g ++ rest) = some (g.toNat, rest) := by
  have hlen := hexGroup_length_le g
  have hne : (hexGroup g).length ≠ 0 := by simpa using toDigits_ne_nil (by decide) g.toNat
  unfold readNumber
  rw [hexGroup, readDigits_toDigits (by decide) charToDigit_hex _ (by simpa using hlen),
    readDigits_of_stop fun y hy => (h y hy).1]
  simp [hexGroup] at hne
  simp [hne, g.toNat_lt]

theorem readNumber_of_stop {radix maxDigits bound : Nat} {z : Bool} {s : List Char}
    (h : ∀ y ∈ s.head?, charToDigit radix y = none) : readNumber radix maxDigits z bound s = none := by
  simp [readNumber, readDigits_of_stop h]

/-! ### The embedded IPv4 address is not tried in vain -/

theorem charToDigit_hex_of_dec {c : Char} (h : charToDigit 10 c ≠ none) : charToDigit 16 c ≠ none := by
  unfold charToDigit at *
  dsimp only at *
  split_ifs at * <;> simp_all <;> omega

/-- Decimal digits and a dot never begin hexadecimal digits followed by neither a
hexadecimal digit nor a dot. -/
theorem digits_dot_ne : ∀ {xs ys r t : List Char}, (∀ x ∈ xs, charToDigit 16 x ≠ none) →
    (∀ y ∈ ys, charToDigit 10 y ≠ none) → Stops r → xs ++ r ≠ ys ++ '.' :: t
  | [], [], r, t, _, _, hr, h => by
    simp only [List.nil_append] at h
    subst h
    exact (hr '.' rfl).2 rfl
  | [], y :: ys, r, t, _, hy, hr, h => by
    simp only [List.nil_append, List.cons_append] at h
    subst h
    exact charToDigit_hex_of_dec (hy y (List.mem_cons_self _ _)) (hr y rfl).1
  | x :: xs, [], r, t, hx, _, _, h => by
    simp only [List.cons_append, List.nil_append, List.cons.injEq] at h
    exact hx x (List.mem_cons_self _ _) (h.1 ▸ rfl)
  | x :: xs, y :: ys, r, t, hx, hy, hr, h => by
    simp only [List.cons_append, List.cons.injEq] at h
    exact digits_dot_ne (fun x' hx' => hx x' (List.mem_cons_of_mem _ hx'))
      (fun y' hy' => hy y' (List.mem_cons_of_mem _ hy')) hr h.2

theorem readIpv4Addr_eq_none {xs r : List Char} (hx : ∀ x ∈ xs, charToDigit 16 x ≠ none)
    (hr : Stops r) : readIpv4Addr (xs ++ r) = none := by
  cases h : readIpv4Addr (xs ++ r) with
  | none => rfl
  | some res =>
    obtain ⟨⟨a, b, c, d⟩, rest⟩ := res
    have he := readIpv4Addr_eq_some h
    simp only [ipv4Text, List.append_assoc, List.cons_append] at he
    refine absurd he (digits_dot_ne hx (fun y hy => ?_) hr)
    obtain ⟨k, hk, rfl⟩ := mem_toDigits (by decide) _ hy
    simp [charToDigit_digitChar k hk]

theorem readIpv4Addr_hexGroup (g : UInt16) {rest : List Char} (h : Stops rest) :
    readIpv4Addr (hexGroup g ++ rest) = none :=
  readIpv4Addr_eq_none (fun x hx => by
    obtain ⟨k, hk, rfl⟩ := hex_of_mem_hexGroup hx
    simp [charToDigit_hex k hk]) h

theorem readIpv4Addr_of_stops {s : List Char} (h : Stops s) : readIpv4Addr s = none :=
  readIpv4Addr_eq_none (List.forall_mem_nil _) h

/-! ### Reading groups -/

theorem colonGroups_eq_nil {gs : List UInt16} : colonGroups gs = [] ↔ gs = [] := by
  cases gs <;> simp [colonGroups]

theorem groupsText_eq_nil {gs : List UInt16} : groupsText gs = [] ↔ gs = [] := by
  cases gs with
  | nil => simp [groupsText]
  | cons g gs => simp [groupsText, hexGroup, toDigits_ne_nil (show 1 < 16 by decide) g.toNat]

theorem groupsText_append {gs : List UInt16} (gs' : List UInt16) (h : gs ≠ []) :
    groupsText (gs ++ gs') = groupsText gs ++ colonGroups gs' := by
  cases gs with
  | nil => exact absurd rfl h
  | cons g gs => simp [groupsText, colonGroups_append]

/-- A slot where the embedded IPv4 address fails and a group is read. -/
theorem readGroups_of_group {i n g : Nat} {s rest : List Char}
    (h4 : readSeparator ':' i readIpv4Addr s = none)
    (hg : readSeparator ':' i (readNumber 16 4 true 65536) s = some (g, rest)) :
    readGroups i (n + 1) s =
      (g :: (readGroups (i + 1) n rest).1, (readGroups (i + 1) n rest).2.1,
        (readGroups (i + 1) n rest).2.2) := by
  simp [readGroups, h4, hg]

/-- A slot where neither an IPv4 address nor a group is read ends the groups. -/
theorem readGroups_of_stop {i n : Nat} {s : List Char}
    (h4 : readSeparator ':' i readIpv4Addr s = none)
    (hg : readSeparator ':' i (readNumber 16 4 true 65536) s = none) :
    readGroups i n s = ([], false, s) := by
  cases n <;> simp [readGroups, h4, hg]

theorem readSeparator_of_stops {α : Type} {i : Nat} {inner : List Char → Option (α × List Char)}
    {s : List Char} (hi : ∀ s', Stops s' → inner s' = none) (h : Stops s)
    (h' : ∀ t, s = ':' :: t → Stops t) : readSeparator ':' i inner s = none := by
  unfold readSeparator
  split_ifs
  · cases s with
    | nil => rfl
    | cons c t =>
      by_cases hc : c = ':'
      · subst hc
        simpa [readGivenChar] using hi t (h' t rfl)
      · simp [readGivenChar, hc]
  · exact hi s h

/-- The groups end at the end of the input and at a `::`. -/
theorem readGroups_of_stops {i n : Nat} {s : List Char} (h : Stops s)
    (h' : ∀ t, s = ':' :: t → Stops t) : readGroups i n s = ([], false, s) :=
  readGroups_of_stop (readSeparator_of_stops (fun _ => readIpv4Addr_of_stops) h h')
    (readSeparator_of_stops (fun _ hs => readNumber_of_stop fun y hy => (hs y hy).1) h h')

theorem readGroups_nil (i n : Nat) : readGroups i n [] = ([], false, []) :=
  readGroups_of_stops stops_nil fun _ h => nomatch h

theorem readGroups_hexGroup (n : Nat) (g : UInt16) {rest : List Char} (h : Stops rest) :
    readGroups 0 (n + 1) (hexGroup g ++ rest) =
      (g.toNat :: (readGroups 1 n rest).1, (readGroups 1 n rest).2.1, (readGroups 1 n rest).2.2) :=
  readGroups_of_group (by simpa [readSeparator] using readIpv4Addr_hexGroup g h)
    (by simpa [readSeparator] using readNumber_hexGroup g h)

theorem readGroups_colon_hexGroup {i : Nat} (hi : 0 < i) (n : Nat) (g : UInt16) {rest : List Char}
    (h : Stops rest) :
    readGroups i (n + 1) (':' :: (hexGroup g ++ rest)) =
      (g.toNat :: (readGroups (i + 1) n rest).1, (readGroups (i + 1) n rest).2.1,
        (readGroups (i + 1) n rest).2.2) :=
  readGroups_of_group (by simpa [readSeparator, readGivenChar, hi] using readIpv4Addr_hexGroup g h)
    (by simpa [readSeparator, readGivenChar, hi] using readNumber_hexGroup g h)

/-- Groups after colons are read one slot each while slots are left. -/
theorem readGroups_colonGroups : ∀ (gs : List UInt16) {i n : Nat} {rest : List Char}, 0 < i →
    gs.length ≤ n → Stops rest →
    readGroups i n (colonGroups gs ++ rest) =
      (gs.map UInt16.toNat ++ (readGroups (i + gs.length) (n - gs.length) rest).1,
        (readGroups (i + gs.length) (n - gs.length) rest).2.1,
        (readGroups (i + gs.length) (n - gs.length) rest).2.2)
  | [], _, _, _, _, _, _ => by simp [colonGroups]
  | _ :: _, _, 0, _, _, hn, _ => absurd hn (by simp)
  | g :: gs, i, n + 1, rest, hi, hn, h => by
    rw [colonGroups, List.cons_append, List.append_assoc,
      readGroups_colon_hexGroup hi n g (stops_colonGroups_append gs h),
      readGroups_colonGroups gs (Nat.succ_pos i) (by simpa using hn) h]
    simp only [List.length_cons, List.map_cons, List.cons_append,
      show i + 1 + gs.length = i + (gs.length + 1) by omega,
      show n - gs.length = n + 1 - (gs.length + 1) by omega]

theorem readGroups_groupsText (gs : List UInt16) {n : Nat} {rest : List Char} (hn : gs.length ≤ n)
    (h : Stops rest) :
    readGroups 0 n (groupsText gs ++ rest) =
      (gs.map UInt16.toNat ++ (readGroups gs.length (n - gs.length) rest).1,
        (readGroups gs.length (n - gs.length) rest).2.1,
        (readGroups gs.length (n - gs.length) rest).2.2) := by
  match gs, n, hn with
  | [], _, _ => simp [groupsText]
  | g :: gs, n + 1, hn =>
    rw [groupsText, List.append_assoc, readGroups_hexGroup n g (stops_colonGroups_append gs h),
      readGroups_colonGroups gs Nat.one_pos (by simpa using hn) h]
    simp only [List.length_cons, List.map_cons, List.cons_append, Nat.add_comm 1,
      Nat.add_sub_add_right]

/-- Reading no more groups than are written stops after `n` of them, short of the end
of the input when groups or other text remain. -/
theorem readGroups_groupsText_of_le {gs : List UInt16} {n : Nat} {rest : List Char}
    (hn : n ≤ gs.length) (h : Stops rest) (hne : n < gs.length ∨ rest ≠ []) :
    ∃ head flag rest', readGroups 0 n (groupsText gs ++ rest) = (head, flag, rest') ∧
      head.length = n ∧ rest' ≠ [] := by
  refine ⟨_, _, _, rfl, ?_⟩
  obtain ⟨A, B, rfl, rfl⟩ : ∃ A B, gs = A ++ B ∧ A.length = n :=
    ⟨gs.take n, gs.drop n, (List.take_append_drop n gs).symm, List.length_take_of_le hn⟩
  have hB : B ≠ [] ∨ rest ≠ [] := by
    rcases hne with hne | hne
    · exact .inl fun hB => by simp [hB] at hne
    · exact .inr hne
  cases A with
  | nil =>
    simp only [List.nil_append, List.length_nil, readGroups, true_and]
    rcases hB with hB | hB <;> simp [groupsText_eq_nil, hB]
  | cons a A =>
    rw [groupsText_append B (List.cons_ne_nil a A), List.append_assoc,
      readGroups_groupsText _ le_rfl (stops_colonGroups_append B h)]
    rcases hB with hB | hB <;> simp [readGroups, colonGroups_eq_nil, hB]

theorem readGroups_groupsText_all {gs : List UInt16} {n : Nat} (hn : gs.length ≤ n) :
    readGroups 0 n (groupsText gs) = (gs.map UInt16.toNat, false, []) := by
  simpa [readGroups_nil] using readGroups_groupsText gs hn stops_nil

theorem readIpv4Addr_groupsText (gs : List UInt16) {rest : List Char} (h : Stops rest) :
    readIpv4Addr (groupsText gs ++ rest) = none := by
  cases gs with
  | nil => exact readIpv4Addr_of_stops h
  | cons g gs =>
    rw [groupsText, List.append_assoc]
    exact readIpv4Addr_hexGroup g (stops_colonGroups_append gs h)

/-! ### The two forms of a literal -/

theorem parseIpAddr_groupsText (gs : List UInt16) :
    parseIpAddr (groupsText gs) =
      if gs.length = 8 then some (.v6 (groupsToBits (gs.map UInt16.toNat))) else none := by
  have h4 : readIpv4Addr (groupsText gs) = none := by
    simpa using readIpv4Addr_groupsText gs stops_nil
  rcases Nat.lt_or_ge 8 gs.length with hlt | hle
  · obtain ⟨head, flag, rest, hR, hlen, hne⟩ := readGroups_groupsText_of_le (le_of_lt hlt) stops_nil (.inl hlt)
    rw [List.append_nil] at hR
    simp [parseIpAddr, h4, readIpv6Addr, hR, hlen, hne, hlt.ne']
  · simp [parseIpAddr, h4, readIpv6Addr, readGroups_groupsText_all hle, readGivenChar]
    split_ifs <;> rfl

theorem slash_not_mem_groupsText (gs : List UInt16) : '/' ∉ groupsText gs := by
  have hhex : ∀ g : UInt16, '/' ∉ hexGroup g := fun g h => by
    obtain ⟨k, hk, hc⟩ := hex_of_mem_hexGroup h
    exact absurd hc ((show ∀ k < 16, Nat.digitChar k ≠ '/' by decide) k hk)
  have hcolon : ∀ gs : List UInt16, '/' ∉ colonGroups gs := by
    intro gs
    induction gs with
    | nil => exact List.not_mem_nil _
    | cons g gs ih => simp [colonGroups, hhex g, ih]
  cases gs with
  | nil => exact List.not_mem_nil _
  | cons g gs => simp [groupsText, hhex g, hcolon gs]

/-- The segment after `/ip6/` is tried first, and the rest of the multiaddr only
when it is not an address. -/
theorem extractIpFromMultiaddr_ip6 {seg : List Char} (h : '/' ∉ seg) (more : String) :
    extractIpFromMultiaddr ("/ip6/" ++ ⟨seg⟩ ++ "/" ++ more) =
      (parseIpAddr seg).or (extractIpFromMultiaddr more) := by
  have hip6 : parseIpAddr ['i', 'p', '6'] = none := by decide
  have hnil : parseIpAddr [] = none := by decide
  have hsplit : ∀ rest, splitSegments ('/' :: 'i' :: 'p' :: '6' :: '/' :: rest) =
      [] :: ['i', 'p', '6'] :: splitSegments rest := fun rest =>
    (splitSegments_append_slash _ (List.not_mem_nil '/')).trans
      (congrArg _ (splitSegments_append_slash _ (show '/' ∉ ['i', 'p', '6'] by decide)))
  simp [extractIpFromMultiaddr, String.toList, hsplit, splitSegments_append_slash _ h, hip6, hnil]
  rw [List.findSome?_cons]
  cases parseIpAddr seg <;> rfl

/-- Eight groups written in hexadecimal and separated by colons are read as the
address of those groups, also after `/ip6/` in a multiaddr; any other number of
groups is rejected, and the multiaddr then yields what its later segments yield. -/
theorem ipv6_full_form_round_trip (gs : List UInt16) (more : String) :
    parseIpAddr (groupsText gs) =
        (if gs.length = 8 then some (.v6 (groupsToBits (gs.map UInt16.toNat))) else none) ∧
      extractIpFromMultiaddr ("/ip6/" ++ ⟨groupsText gs⟩ ++ "/" ++ more) =
        if gs.length = 8 then some (.v6 (groupsToBits (gs.map UInt16.toNat)))
        else extractIpFromMultiaddr more := by
  refine ⟨parseIpAddr_groupsText gs, ?_⟩
  rw [extractIpFromMultiaddr_ip6 (slash_not_mem_groupsText gs), parseIpAddr_groupsText]
  split_ifs <;> rfl

end Agentme
