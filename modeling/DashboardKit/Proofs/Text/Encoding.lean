import DashboardKit.Proofs.Except
import DashboardKit.Text.Utf8

/-!
# Decoding what was encoded

The octets of characters are decoded to these characters again, and if there is no carriage return
among them, a file with these octets is read as them.

Octets are decoded to a character only if they are its own, and a beginning of octets to a beginning
of what they are decoded to, if it is decoded at all.

Main statements: `decode_encodeChars`, `read_encodeChars`, `encodeChar_of_decodeChar` and
`exists_append_of_decode_take`.
-/

set_option autoImplicit false

namespace DashboardKit.Utf8

variable {count number n : Nat} {low high : UInt8} {octets rest : Octets}

/-! ## One character -/

theorem lead?_one (h : n < 0x80) : lead? n.toUInt8 = some (n, 0, 0x80, 0xBF) := by
  have hall : ∀ n : Fin 0x80, lead? n.val.toUInt8 = some (n.val, 0, 0x80, 0xBF) := by decide
  exact hall ⟨n, h⟩

theorem lead?_two (hleast : 2 ≤ n) (h : n < 0x20) :
    lead? (0xC0 + n).toUInt8 = some (n, 1, 0x80, 0xBF) := by
  have hall : ∀ n : Fin 0x20, 2 ≤ n.val →
      lead? (0xC0 + n.val).toUInt8 = some (n.val, 1, 0x80, 0xBF) := by decide
  exact hall ⟨n, h⟩ hleast

theorem lead?_three (h : n < 0x10) :
    lead? (0xE0 + n).toUInt8
      = some (n, 2, if n = 0 then 0xA0 else 0x80, if n = 13 then 0x9F else 0xBF) := by
  have hall : ∀ n : Fin 0x10, lead? (0xE0 + n.val).toUInt8
      = some (n.val, 2, if n.val = 0 then 0xA0 else 0x80, if n.val = 13 then 0x9F else 0xBF) := by
    decide
  exact hall ⟨n, h⟩

theorem lead?_four (h : n < 5) :
    lead? (0xF0 + n).toUInt8
      = some (n, 3, if n = 0 then 0x90 else 0x80, if n = 4 then 0x8F else 0xBF) := by
  have hall : ∀ n : Fin 5, lead? (0xF0 + n.val).toUInt8
      = some (n.val, 3, if n.val = 0 then 0x90 else 0x80, if n.val = 4 then 0x8F else 0xBF) := by
    decide
  exact hall ⟨n, h⟩

theorem toNat_tail (h : n < 0x40) : (0x80 + n).toUInt8.toNat = 0x80 + n := by
  have hall : ∀ n : Fin 0x40, (0x80 + n.val).toUInt8.toNat = 0x80 + n.val := by decide
  exact hall ⟨n, h⟩

/-- An octet within the bounds continues a character. -/
theorem tails_cons {r : Nat × Octets} (hn : n < 0x40) (hlow : low.toNat ≤ 0x80 + n)
    (hhigh : 0x80 + n ≤ high.toNat)
    (h : tails count 0x80 0xBF (number * 64 + n) rest = .ok r) :
    tails (count + 1) low high number ((0x80 + n).toUInt8 :: rest) = .ok r := by
  have hbounds : low ≤ (0x80 + n).toUInt8 ∧ (0x80 + n).toUInt8 ≤ high := by
    rw [UInt8.le_iff_toNat_le, UInt8.le_iff_toNat_le, toNat_tail hn]
    exact ⟨hlow, hhigh⟩
  rw [tails, if_pos hbounds, toNat_tail hn, Nat.add_sub_cancel_left, h]

/-- The bounds on a second octet. -/
theorem toNat_bounds : (0x80 : UInt8).toNat = 0x80 ∧ (0xBF : UInt8).toNat = 0xBF ∧
    (0xA0 : UInt8).toNat = 0xA0 ∧ (0x9F : UInt8).toNat = 0x9F ∧ (0x90 : UInt8).toNat = 0x90 ∧
    (0x8F : UInt8).toNat = 0x8F := ⟨rfl, rfl, rfl, rfl, rfl, rfl⟩

/-- The numbers of characters are those below 0x110000 that are no surrogates. -/
theorem toNat_char (c : Char) : c.toNat < 0xD800 ∨ 0xDFFF < c.toNat ∧ c.toNat < 0x110000 :=
  c.valid

/-- The octets of a character are read as its number. -/
theorem decodeChar_encodeChar (c : Char) (rest : Octets) :
    ∃ b tail, encodeChar c = b :: tail ∧ decodeChar b (tail ++ rest) = .ok (c.toNat, rest) := by
  have hchar := toNat_char c
  obtain ⟨h80, hBF, hA0, h9F, h90, h8F⟩ := toNat_bounds
  unfold encodeChar
  generalize c.toNat = n at hchar ⊢
  dsimp only
  split
  · rename_i hone
    refine ⟨_, _, rfl, ?_⟩
    rw [decodeChar, lead?_one hone]
    rfl
  split
  · rename_i hone htwo
    refine ⟨_, _, rfl, ?_⟩
    rw [decodeChar, lead?_two (by omega) (by omega)]
    refine tails_cons (Nat.mod_lt _ (by decide)) (by omega) (by omega) ?_
    rw [tails, Nat.div_add_mod']
    rfl
  split
  · rename_i htwo hthree
    refine ⟨_, _, rfl, ?_⟩
    rw [decodeChar, lead?_three (by omega)]
    refine tails_cons (Nat.mod_lt _ (by decide)) ?_ ?_ ?_
    · split <;> omega
    · split <;> omega
    refine tails_cons (Nat.mod_lt _ (by decide)) (by omega) (by omega) ?_
    rw [tails, show (n / 4096 * 64 + n / 64 % 64) * 64 + n % 64 = n by omega]
    rfl
  · rename_i hthree
    refine ⟨_, _, rfl, ?_⟩
    rw [decodeChar, lead?_four (by omega)]
    refine tails_cons (Nat.mod_lt _ (by decide)) ?_ ?_ ?_
    · split <;> omega
    · split <;> omega
    refine tails_cons (Nat.mod_lt _ (by decide)) (by omega) (by omega) ?_
    refine tails_cons (Nat.mod_lt _ (by decide)) (by omega) (by omega) ?_
    rw [tails, show ((n / 262144 * 64 + n / 4096 % 64) * 64 + n / 64 % 64) * 64 + n % 64 = n
      by omega]
    rfl

/-! ## No other octets -/

/-- What the first octet of a character promises settles this octet. -/
theorem eq_of_lead? {b : UInt8} (h : lead? b = some (number, count, low, high)) :
    (count = 0 ∧ number < 0x80 ∧ b = number.toUInt8) ∨
      (count = 1 ∧ 2 ≤ number ∧ number < 0x20 ∧ b = (0xC0 + number).toUInt8 ∧
        low = 0x80 ∧ high = 0xBF) ∨
      (count = 2 ∧ number < 0x10 ∧ b = (0xE0 + number).toUInt8 ∧
        low = (if number = 0 then 0xA0 else 0x80) ∧
        high = (if number = 13 then 0x9F else 0xBF)) ∨
      count = 3 ∧ number < 5 ∧ b = (0xF0 + number).toUInt8 ∧
        low = (if number = 0 then 0x90 else 0x80) ∧
        high = (if number = 4 then 0x8F else 0xBF) := by
  have hb (lead : Nat) (hlead : lead ≤ b.toNat) : b = (lead + (b.toNat - lead)).toUInt8 := by
    rw [Nat.add_sub_cancel' hlead]
    exact UInt8.ofNat_toNat.symm
  unfold lead? at h
  simp only [UInt8.lt_iff_toNat_lt, ← UInt8.toNat_inj, UInt8.reduceToNat] at h
  split at h
  · simp only [Option.some.injEq, Prod.mk.injEq] at h
    obtain ⟨rfl, rfl, -⟩ := h
    exact .inl ⟨rfl, by assumption, UInt8.ofNat_toNat.symm⟩
  split at h
  · cases h
  split at h
  · simp only [Option.some.injEq, Prod.mk.injEq] at h
    obtain ⟨rfl, rfl, rfl, rfl⟩ := h
    exact .inr (.inl ⟨rfl, by omega, by omega, hb 0xC0 (by omega), rfl, rfl⟩)
  split at h
  · simp only [Option.some.injEq, Prod.mk.injEq] at h
    obtain ⟨rfl, rfl, rfl, rfl⟩ := h
    have hE0 : b.toNat - 0xE0 = 0 ↔ b.toNat = 0xE0 := by omega
    have hED : b.toNat - 0xE0 = 13 ↔ b.toNat = 0xED := by omega
    simp only [hE0, hED]
    exact .inr (.inr (.inl ⟨trivial, by omega, hb 0xE0 (by omega), trivial, trivial⟩))
  split at h
  · simp only [Option.some.injEq, Prod.mk.injEq] at h
    obtain ⟨rfl, rfl, rfl, rfl⟩ := h
    have hF0 : b.toNat - 0xF0 = 0 ↔ b.toNat = 0xF0 := by omega
    have hF4 : b.toNat - 0xF0 = 4 ↔ b.toNat = 0xF4 := by omega
    simp only [hF0, hF4]
    exact .inr (.inr (.inr ⟨trivial, by omega, hb 0xF0 (by omega), trivial, trivial⟩))
  · cases h

/-- An octet that continues a character gives it six bits. -/
theorem exists_of_tails (hlow : 0x80 ≤ low.toNat) (hhigh : high.toNat ≤ 0xBF)
    (h : tails (count + 1) low high number octets = .ok (n, rest)) :
    ∃ k octets', k < 0x40 ∧ low.toNat ≤ 0x80 + k ∧ 0x80 + k ≤ high.toNat ∧
      octets = (0x80 + k).toUInt8 :: octets' ∧
        tails count 0x80 0xBF (number * 64 + k) octets' = .ok (n, rest) := by
  cases octets with
  | nil => cases h
  | cons b octets =>
    unfold tails at h
    split at h
    · rename_i hbounds
      rw [UInt8.le_iff_toNat_le, UInt8.le_iff_toNat_le] at hbounds
      split at h
      · rename_i htails
        cases h
        refine ⟨b.toNat - 0x80, octets, by omega, by omega, by omega, ?_, htails⟩
        rw [show 0x80 + (b.toNat - 0x80) = b.toNat by omega]
        simp
      · cases h
    · cases h

theorem toNat_ofNat_char (h : n < 0xD800 ∨ 0xDFFF < n ∧ n < 0x110000) :
    (Char.ofNat n).toNat = n := by
  have hvalid : n.isValidChar := h
  rw [Char.ofNat, dif_pos hvalid]
  rfl

/-! A character is spelled by the sixes of bits of its number. -/

theorem encodeChar_one (h : n < 0x80) : encodeChar (Char.ofNat n) = [n.toUInt8] := by
  rw [encodeChar, toNat_ofNat_char (by omega)]
  exact if_pos h

theorem encodeChar_two (hleast : 2 ≤ n) (h : n < 0x20) {k : Nat} (hk : k < 0x40) :
    encodeChar (Char.ofNat (n * 64 + k)) = [(0xC0 + n).toUInt8, (0x80 + k).toUInt8] := by
  rw [encodeChar, toNat_ofNat_char (by omega)]
  have hfront : (n * 64 + k) / 64 = n := by omega
  have hback : (n * 64 + k) % 64 = k := by omega
  simp only [if_neg (show ¬ n * 64 + k < 0x80 by omega),
    if_pos (show n * 64 + k < 0x800 by omega), hfront, hback]

theorem encodeChar_three {k k' : Nat} (hk : k < 0x40) (hk' : k' < 0x40)
    (hleast : 0x800 ≤ (n * 64 + k) * 64 + k') (h : (n * 64 + k) * 64 + k' < 0x10000)
    (hvalid : (n * 64 + k) * 64 + k' < 0xD800 ∨ 0xDFFF < (n * 64 + k) * 64 + k') :
    encodeChar (Char.ofNat ((n * 64 + k) * 64 + k'))
      = [(0xE0 + n).toUInt8, (0x80 + k).toUInt8, (0x80 + k').toUInt8] := by
  rw [encodeChar, toNat_ofNat_char (by omega)]
  generalize hm : (n * 64 + k) * 64 + k' = m at *
  simp only [if_neg (show ¬ m < 0x80 by omega), if_neg (show ¬ m < 0x800 by omega), if_pos h,
    show m / 4096 = n by omega, show m / 64 % 64 = k by omega, show m % 64 = k' by omega]

theorem encodeChar_four {k k' k'' : Nat} (hk : k < 0x40) (hk' : k' < 0x40) (hk'' : k'' < 0x40)
    (hleast : 0x10000 ≤ ((n * 64 + k) * 64 + k') * 64 + k'')
    (h : ((n * 64 + k) * 64 + k') * 64 + k'' < 0x110000) :
    encodeChar (Char.ofNat (((n * 64 + k) * 64 + k') * 64 + k''))
      = [(0xF0 + n).toUInt8, (0x80 + k).toUInt8, (0x80 + k').toUInt8, (0x80 + k'').toUInt8] := by
  rw [encodeChar, toNat_ofNat_char (by omega)]
  generalize hm : ((n * 64 + k) * 64 + k') * 64 + k'' = m at *
  simp only [if_neg (show ¬ m < 0x80 by omega), if_neg (show ¬ m < 0x800 by omega),
    if_neg (show ¬ m < 0x10000 by omega), show m / 262144 = n by omega,
    show m / 4096 % 64 = k by omega, show m / 64 % 64 = k' by omega, show m % 64 = k'' by omega]

/-- Octets are read as the number of a character only if they are those of the character. -/
theorem encodeChar_of_decodeChar {b : UInt8} (h : decodeChar b octets = .ok (n, rest)) :
    encodeChar (Char.ofNat n) ++ rest = b :: octets := by
  unfold decodeChar at h
  split at h
  · cases h
  rename_i bits count low high hlead
  obtain ⟨h80, hBF, hA0, h9F, h90, h8F⟩ := toNat_bounds
  rcases eq_of_lead? hlead with ⟨rfl, hbits, rfl⟩ | ⟨rfl, hleast, hbits, rfl, rfl, rfl⟩ |
    ⟨rfl, hbits, rfl, hlow, hhigh⟩ | ⟨rfl, hbits, rfl, hlow, hhigh⟩
  · cases h
    rw [encodeChar_one hbits]
    rfl
  · obtain ⟨k, octets', hk, -, -, rfl, htails⟩ := exists_of_tails (by omega) (by omega) h
    cases htails
    rw [encodeChar_two hleast hbits hk]
    rfl
  · have hleast : 0x80 ≤ low.toNat := by rw [hlow]; split <;> omega
    have hmost : high.toNat ≤ 0xBF := by rw [hhigh]; split <;> omega
    obtain ⟨k, octets', hk, hk80, hkBF, rfl, htails⟩ := exists_of_tails hleast hmost h
    obtain ⟨k', octets'', hk', -, -, rfl, htails'⟩ := exists_of_tails (by omega) (by omega) htails
    cases htails'
    -- the second octet keeps the number from being too small or that of a surrogate
    have hvalid : 0x800 ≤ (bits * 64 + k) * 64 + k' ∧ ((bits * 64 + k) * 64 + k' < 0xD800 ∨
        0xDFFF < (bits * 64 + k) * 64 + k') := by
      split at hlow <;> split at hhigh <;> subst hlow hhigh <;> omega
    rw [encodeChar_three hk hk' hvalid.1 (by omega) hvalid.2]
    rfl
  · have hleast : 0x80 ≤ low.toNat := by rw [hlow]; split <;> omega
    have hmost : high.toNat ≤ 0xBF := by rw [hhigh]; split <;> omega
    obtain ⟨k, octets', hk, hk80, hkBF, rfl, htails⟩ := exists_of_tails hleast hmost h
    obtain ⟨k', octets'', hk', -, -, rfl, htails'⟩ := exists_of_tails (by omega) (by omega) htails
    obtain ⟨k'', rest', hk'', -, -, rfl, htails''⟩ :=
      exists_of_tails (by omega) (by omega) htails'
    cases htails''
    have hvalid : 0x10000 ≤ ((bits * 64 + k) * 64 + k') * 64 + k'' ∧
        ((bits * 64 + k) * 64 + k') * 64 + k'' < 0x110000 := by
      split at hlow <;> split at hhigh <;> subst hlow hhigh <;> omega
    rw [encodeChar_four hk hk' hk'' hvalid.1 hvalid.2]
    rfl

/-! ## Texts -/

theorem decodeFrom_encodeChars (cs : List Char) (position : Nat) :
    decodeFrom position (encodeChars cs) = .ok cs := by
  induction cs generalizing position with
  | nil => rw [encodeChars, List.flatMap_nil, decodeFrom]
  | cons c cs ih =>
    obtain ⟨b, tail, hencode, hdecode⟩ := decodeChar_encodeChar c (encodeChars cs)
    rw [encodeChars, List.flatMap_cons, hencode, List.cons_append, decodeFrom]
    rw [encodeChars] at hdecode
    split
    · rename_i cause good hfault
      rw [hdecode] at hfault
      cases hfault
    · rename_i m rest hchar
      rw [hdecode] at hchar
      cases hchar
      rw [← encodeChars, ih, Char.ofNat_toNat]
      rfl

/-- The octets of characters are decoded to these characters. -/
theorem decode_encodeChars (cs : List Char) : decode (encodeChars cs) = .ok cs :=
  decodeFrom_encodeChars cs 0

theorem unifyNewlines_of_not_mem {cs : List Char} (h : '\r' ∉ cs) : unifyNewlines cs = cs := by
  induction cs with
  | nil => rfl
  | cons c cs ih =>
    rw [List.mem_cons, not_or] at h
    have hc : c ≠ '\r' := Ne.symm h.1
    rw [unifyNewlines.eq_4 _ _ (fun _ hcr _ => hc hcr) hc, ih h.2]

/-- A file with the octets of characters is read as them, if there is no carriage return. -/
theorem read_encodeChars {cs : List Char} (h : '\r' ∉ cs) : read (encodeChars cs) = .ok cs := by
  rw [read, decode_encodeChars]
  exact congrArg Except.ok (unifyNewlines_of_not_mem h)

theorem read_nil : read [] = .ok [] := @read_encodeChars [] List.not_mem_nil

/-! ## Beginnings -/

/-- Octets that were read as part of a character are so whatever comes after. -/
theorem tails_append (h : tails count low high number octets = .ok (n, rest)) (more : Octets) :
    tails count low high number (octets ++ more) = .ok (n, rest ++ more) := by
  induction count generalizing low high number octets with
  | zero =>
    cases h
    rfl
  | succ count ih =>
    cases octets with
    | nil => cases h
    | cons b octets =>
      unfold tails at h
      split at h
      · rename_i hrange
        split at h
        · rename_i htails
          cases h
          rw [List.cons_append, tails, if_pos hrange, ih htails]
        · cases h
      · cases h

theorem decodeChar_append {b : UInt8} (h : decodeChar b octets = .ok (n, rest)) (more : Octets) :
    decodeChar b (octets ++ more) = .ok (n, rest ++ more) := by
  unfold decodeChar at h ⊢
  split at h
  · cases h
  · exact tails_append h more

/-- What octets are decoded to they are decoded to whatever comes after. -/
theorem decodeFrom_append {position : Nat} {cs : List Char}
    (h : decodeFrom position octets = .ok cs) (more : Octets) :
    ∃ position', decodeFrom position (octets ++ more)
      = (decodeFrom position' more).map (cs ++ ·) := by
  fun_induction decodeFrom position octets generalizing cs with
  | case1 position =>
    cases h
    refine ⟨position, ?_⟩
    cases hmore : decodeFrom position more <;> simp [hmore, Except.map]
  | case2 position b octets cause good hfault => cases h
  | case3 position b octets n rest hchar ih =>
    obtain ⟨behind, hbehind, rfl⟩ := map_eq_ok.1 h
    obtain ⟨position', hmore⟩ := ih hbehind
    refine ⟨position', ?_⟩
    rw [List.cons_append, decodeFrom]
    split
    · rename_i hfault
      rw [decodeChar_append hchar more] at hfault
      cases hfault
    · rename_i hwhole
      rw [decodeChar_append hchar more] at hwhole
      cases hwhole
      rw [hmore]
      cases decodeFrom position' more <;> rfl

/-- What can be decoded in front of octets is what they begin with. -/
theorem exists_append_of_decode_take {cs front : List Char} (h : decode octets = .ok cs)
    {count : Nat} (hfront : decode (octets.take count) = .ok front) :
    ∃ behind, cs = front ++ behind := by
  obtain ⟨position, hmore⟩ := decodeFrom_append hfront (octets.drop count)
  rw [List.take_append_drop, ← decode, h] at hmore
  obtain ⟨behind, -, hcs⟩ := map_eq_ok.1 hmore.symm
  exact ⟨behind, hcs.symm⟩

end DashboardKit.Utf8
