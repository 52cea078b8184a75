import ChangeGate.Proofs.Text.Ascii
import ChangeGate.Proofs.Text.Lines

/-! # Texts in files

The bytes of a text are read as the text (`decodeUtf8_encodeUtf8`), and bytes that are read as a
text are the bytes of it (`encodeUtf8_of_decodeUtf8`).  But a text with halves of surrogate pairs
has none, and a carriage return in it is read as a line feed.  A text without either is portable:
it is read from a file as it was written. -/

namespace ChangeGate.Text

variable {n m : Nat} {bs : List UInt8} {position : Nat}

theorem toNat_byte (h : n < 0x100) : (UInt8.ofNat n).toNat = n := UInt8.toNat_ofNat_of_lt' h

/-! ### One byte -/

theorem decodeFrom_ascii (h : n < 0x80) :
    decodeFrom position none (UInt8.ofNat n :: bs) =
      (decodeFrom (position + 1) none bs).map (Char.ofNat n :: ·) := by
  rw [decodeFrom, toNat_byte (by omega), if_pos h]

/-- The byte that starts a sequence of several. -/
theorem decodeFrom_lead {bits missing low high : Nat} (h : 0x80 ≤ n) (hn : n < 0x100)
    (hlead : leadByte? (UInt8.ofNat n) = some (bits, missing, low, high)) :
    decodeFrom position none (UInt8.ofNat n :: bs) =
      decodeFrom (position + 1) (some ⟨bits, missing, low, high, position⟩) bs := by
  rw [decodeFrom, toNat_byte hn, if_neg (by omega), hlead]

variable {p : Pending}

/-- A byte with six bits, before the last one. -/
theorem decodeFrom_more (hm : m < 0x40) (hlow : p.low ≤ 0x80 + m) (hhigh : 0x80 + m ≤ p.high)
    (hmissing : 1 < p.missing) :
    decodeFrom position (some p) (UInt8.ofNat (0x80 + m) :: bs) =
      decodeFrom (position + 1) (some ⟨p.bits * 0x40 + m, p.missing - 1, 0x80, 0xBF, p.start⟩)
        bs := by
  have hbounds : ((0x80 + m < p.low || p.high < 0x80 + m) : Bool) = false := by simp; omega
  rw [decodeFrom, toNat_byte (by omega), hbounds]
  simp only [Bool.false_eq_true, if_false]
  rw [if_neg (by omega), Nat.add_sub_cancel_left]

/-- The last byte, with six bits. -/
theorem decodeFrom_last (hm : m < 0x40) (hlow : p.low ≤ 0x80 + m) (hhigh : 0x80 + m ≤ p.high)
    (hmissing : p.missing = 1) :
    decodeFrom position (some p) (UInt8.ofNat (0x80 + m) :: bs) =
      (decodeFrom (position + 1) none bs).map (Char.ofNat (p.bits * 0x40 + m) :: ·) := by
  have hbounds : ((0x80 + m < p.low || p.high < 0x80 + m) : Bool) = false := by simp; omega
  rw [decodeFrom, toNat_byte (by omega), hbounds]
  simp only [Bool.false_eq_true, if_false]
  rw [if_pos (by omega), Nat.add_sub_cancel_left]

/-! ### One character -/

/-- The lower bound of the byte behind a lead byte keeps numbers from being written with more bytes
than they need, and the upper bound keeps halves of surrogate pairs out and ends at the last
character. -/
theorem leadByte?_three (h : n < 0x10000) :
    leadByte? (UInt8.ofNat (0xE0 + n / 0x1000)) =
      some (n / 0x1000, 2, if n / 0x1000 = 0 then 0xA0 else 0x80,
        if n / 0x1000 = 0xD then 0x9F else 0xBF) := by
  have hbits : n / 0x1000 < 0x10 := by omega
  generalize n / 0x1000 = bits at hbits
  rw [leadByte?, toNat_byte (by omega), if_neg (by omega), if_neg (by omega)]
  by_cases hleast : bits = 0
  · subst hleast
    rfl
  by_cases hmost : bits = 0xD
  · subst hmost
    rfl
  rw [if_neg (by omega), if_neg (by omega), if_pos (by omega), if_neg hleast, if_neg hmost,
    Nat.add_sub_cancel_left]

theorem leadByte?_four (h : n < 0x110000) :
    leadByte? (UInt8.ofNat (0xF0 + n / 0x40000)) =
      some (n / 0x40000, 3, if n / 0x40000 = 0 then 0x90 else 0x80,
        if n / 0x40000 = 4 then 0x8F else 0xBF) := by
  have hbits : n / 0x40000 ≤ 4 := by omega
  generalize n / 0x40000 = bits at hbits
  rw [leadByte?, toNat_byte (by omega), if_neg (by omega), if_neg (by omega), if_neg (by omega),
    if_neg (by omega), if_neg (by omega)]
  by_cases hleast : bits = 0
  · subst hleast
    rfl
  by_cases hmost : bits = 4
  · subst hmost
    rfl
  rw [if_neg (by omega), if_pos (by omega), if_neg hleast, if_neg hmost, Nat.add_sub_cancel_left]

theorem decodeFrom_utf8Bytes (c : Char) (position : Nat) (bs : List UInt8) :
    ∃ next, decodeFrom position none (utf8Bytes c ++ bs) =
      (decodeFrom next none bs).map (c :: ·) := by
  have hscalar : c.toNat < 0xD800 ∨ 0xDFFF < c.toNat ∧ c.toNat < 0x110000 := c.valid
  have hc : c = Char.ofNat c.toNat := c.ofNat_toNat.symm
  unfold utf8Bytes
  generalize c.toNat = n at hc hscalar
  subst hc
  dsimp only
  split
  · rename_i hn
    exact ⟨_, decodeFrom_ascii hn⟩
  split
  · rename_i hn hn'
    have hlead : leadByte? (UInt8.ofNat (0xC0 + n / 0x40)) = some (n / 0x40, 1, 0x80, 0xBF) := by
      rw [leadByte?, toNat_byte (by omega), if_neg (by omega), if_pos (by omega),
        Nat.add_sub_cancel_left]
    refine ⟨position + 1 + 1, ?_⟩
    rw [List.cons_append, decodeFrom_lead (by omega) (by omega) hlead, List.singleton_append,
      decodeFrom_last (by omega) (by dsimp only; omega) (by dsimp only; omega) rfl]
    dsimp only
    rw [Nat.div_add_mod']
  split
  · rename_i hn hn' hn''
    refine ⟨position + 1 + 1 + 1, ?_⟩
    rw [List.cons_append, decodeFrom_lead (by omega) (by omega) (leadByte?_three hn''),
      List.cons_append, decodeFrom_more (by omega) (by dsimp only; split <;> omega)
        (by dsimp only; split <;> omega) (by dsimp only; omega), List.singleton_append,
      decodeFrom_last (by omega) (by dsimp only; omega) (by dsimp only; omega) rfl]
    dsimp only
    rw [show (n / 0x1000 * 0x40 + n / 0x40 % 0x40) * 0x40 + n % 0x40 = n by omega]
  · rename_i hn hn' hn''
    refine ⟨position + 1 + 1 + 1 + 1, ?_⟩
    rw [List.cons_append, decodeFrom_lead (by omega) (by omega) (leadByte?_four (by omega)),
      List.cons_append, decodeFrom_more (by omega) (by dsimp only; split <;> omega)
        (by dsimp only; split <;> omega) (by dsimp only; omega), List.cons_append,
      decodeFrom_more (by omega) (by dsimp only; omega) (by dsimp only; omega)
        (by dsimp only; omega),
      List.singleton_append,
      decodeFrom_last (by omega) (by dsimp only; omega) (by dsimp only; omega) rfl]
    dsimp only
    rw [show ((n / 0x40000 * 0x40 + n / 0x1000 % 0x40) * 0x40 + n / 0x40 % 0x40) * 0x40 +
      n % 0x40 = n by omega]

/-- **The bytes of a text are read as the text.** -/
theorem decodeUtf8_encodeUtf8 (cs : List Char) : decodeUtf8 (encodeUtf8 cs) = .ok cs := by
  have h (position : Nat) : decodeFrom position none (encodeUtf8 cs) = .ok cs := by
    induction cs generalizing position with
    | nil => rfl
    | cons c cs ih =>
        obtain ⟨next, hnext⟩ := decodeFrom_utf8Bytes c position (encodeUtf8 cs)
        rw [encodeUtf8, List.flatMap_cons, ← encodeUtf8, hnext, ih]
        rfl
  exact h 0

/-! ### Bytes that are read -/

variable {b : UInt8} {cs : List Char}

/-- The lead byte and the bounds of the byte behind it, by the number of bytes that follow. -/
theorem leadByte?_eq_some {bits missing low high : Nat}
    (h : leadByte? b = some (bits, missing, low, high)) :
    missing = 1 ∧ b.toNat = 0xC0 + bits ∧ 2 ≤ bits ∧ bits < 0x20 ∧ low = 0x80 ∧ high = 0xBF ∨
    missing = 2 ∧ b.toNat = 0xE0 + bits ∧ bits < 0x10 ∧ 0x80 ≤ low ∧ high ≤ 0xBF ∧
      (bits = 0 → low = 0xA0) ∧ (bits = 0xD → high = 0x9F) ∨
    missing = 3 ∧ b.toNat = 0xF0 + bits ∧ bits ≤ 4 ∧ 0x80 ≤ low ∧ high ≤ 0xBF ∧
      (bits = 0 → low = 0x90) ∧ (bits = 4 → high = 0x8F) := by
  unfold leadByte? at h
  dsimp only at h
  repeat' split at h
  all_goals first | contradiction | skip
  all_goals
    simp only [Option.some.injEq, Prod.mk.injEq] at h
    omega

theorem exists_of_map_eq_ok {result : Except (Utf8Flaw × Nat) (List Char)} {c : Char}
    (h : result.map (c :: ·) = .ok cs) : ∃ cs', cs = c :: cs' ∧ result = .ok cs' := by
  cases result with
  | error flaw => cases h
  | ok cs' => exact ⟨cs', (Except.ok.inj h).symm, rfl⟩

/-- What is left to read in the middle of a character. -/
theorem exists_of_decodeFrom_some (h : decodeFrom position (some p) bs = .ok cs) :
    ∃ b bs', bs = b :: bs' ∧ p.low ≤ b.toNat ∧ b.toNat ≤ p.high ∧
      if p.missing ≤ 1 then
        ∃ cs', cs = Char.ofNat (p.bits * 0x40 + (b.toNat - 0x80)) :: cs' ∧
          decodeFrom (position + 1) none bs' = .ok cs'
      else
        decodeFrom (position + 1)
          (some ⟨p.bits * 0x40 + (b.toNat - 0x80), p.missing - 1, 0x80, 0xBF, p.start⟩) bs' =
            .ok cs := by
  cases bs with
  | nil => cases h
  | cons b bs =>
      rw [decodeFrom] at h
      dsimp only at h
      split at h
      · cases h
      · rename_i hbounds
        have hbounds : p.low ≤ b.toNat ∧ b.toNat ≤ p.high := by simpa using hbounds
        refine ⟨b, bs, rfl, hbounds.1, hbounds.2, ?_⟩
        split
        · rename_i hlast
          rw [if_pos hlast] at h
          exact exists_of_map_eq_ok h
        · rename_i hmore
          rwa [if_neg hmore] at h

theorem toNat_ofNat_of_scalar (h : n < 0xD800 ∨ 0xDFFF < n ∧ n < 0x110000) :
    (Char.ofNat n).toNat = n := by
  rw [Char.ofNat, dif_pos (show Nat.isValidChar n from h)]
  rfl

theorem ofNat_eq_of_toNat (h : b.toNat = n) : UInt8.ofNat n = b := by
  rw [← h, UInt8.ofNat_toNat]

variable {b₁ b₂ b₃ : UInt8} {bits : Nat}

theorem utf8Bytes_two (hb : b.toNat = 0xC0 + bits) (hbits : 2 ≤ bits ∧ bits < 0x20)
    (h₁ : 0x80 ≤ b₁.toNat ∧ b₁.toNat ≤ 0xBF) :
    utf8Bytes (Char.ofNat (bits * 0x40 + (b₁.toNat - 0x80))) = [b, b₁] := by
  rw [utf8Bytes, toNat_ofNat_of_scalar (by omega), if_neg (by omega), if_pos (by omega),
    ofNat_eq_of_toNat (b := b) (by omega), ofNat_eq_of_toNat (b := b₁) (by omega)]

theorem utf8Bytes_three (hb : b.toNat = 0xE0 + bits) (hbits : bits < 0x10)
    (hleast : bits = 0 → 0xA0 ≤ b₁.toNat) (hmost : bits = 0xD → b₁.toNat ≤ 0x9F)
    (h₁ : 0x80 ≤ b₁.toNat ∧ b₁.toNat ≤ 0xBF) (h₂ : 0x80 ≤ b₂.toNat ∧ b₂.toNat ≤ 0xBF) :
    utf8Bytes (Char.ofNat
      ((bits * 0x40 + (b₁.toNat - 0x80)) * 0x40 + (b₂.toNat - 0x80))) = [b, b₁, b₂] := by
  rw [utf8Bytes, toNat_ofNat_of_scalar (by omega), if_neg (by omega), if_neg (by omega),
    if_pos (by omega), ofNat_eq_of_toNat (b := b) (by omega),
    ofNat_eq_of_toNat (b := b₁) (by omega), ofNat_eq_of_toNat (b := b₂) (by omega)]

theorem utf8Bytes_four (hb : b.toNat = 0xF0 + bits) (hbits : bits ≤ 4)
    (hleast : bits = 0 → 0x90 ≤ b₁.toNat) (hmost : bits = 4 → b₁.toNat ≤ 0x8F)
    (h₁ : 0x80 ≤ b₁.toNat ∧ b₁.toNat ≤ 0xBF) (h₂ : 0x80 ≤ b₂.toNat ∧ b₂.toNat ≤ 0xBF)
    (h₃ : 0x80 ≤ b₃.toNat ∧ b₃.toNat ≤ 0xBF) :
    utf8Bytes (Char.ofNat
      (((bits * 0x40 + (b₁.toNat - 0x80)) * 0x40 + (b₂.toNat - 0x80)) * 0x40 +
        (b₃.toNat - 0x80))) = [b, b₁, b₂, b₃] := by
  rw [utf8Bytes, toNat_ofNat_of_scalar (by omega), if_neg (by omega), if_neg (by omega),
    if_neg (by omega), ofNat_eq_of_toNat (b := b) (by omega),
    ofNat_eq_of_toNat (b := b₁) (by omega), ofNat_eq_of_toNat (b := b₂) (by omega),
    ofNat_eq_of_toNat (b := b₃) (by omega)]

theorem length_utf8Bytes_pos (c : Char) : 0 < (utf8Bytes c).length := by
  unfold utf8Bytes
  dsimp only
  repeat' split
  all_goals exact Nat.succ_pos _

/-- A byte below `0x80` is a character of its own. -/
theorem ofNat_mem_utf8Bytes_iff {c : Char} (h : n < 0x80) :
    UInt8.ofNat n ∈ utf8Bytes c ↔ c.toNat = n := by
  have hbyte {m : Nat} (hm : m < 0x100) : UInt8.ofNat n = UInt8.ofNat m ↔ n = m := by
    rw [← UInt8.toNat_inj, toNat_byte (by omega), toNat_byte hm]
  have hscalar : c.toNat < 0xD800 ∨ 0xDFFF < c.toNat ∧ c.toNat < 0x110000 := c.valid
  unfold utf8Bytes
  generalize c.toNat = m at hscalar
  dsimp only
  repeat' split
  all_goals
    simp only [List.mem_cons, List.not_mem_nil, or_false]
    repeat rw [hbyte (by omega)]
    omega

/-- The bytes of the first character that is read are the first bytes. -/
theorem exists_of_decodeFrom (h : decodeFrom position none (b :: bs) = .ok cs) :
    ∃ c cs' bs' next, cs = c :: cs' ∧ b :: bs = utf8Bytes c ++ bs' ∧
      decodeFrom next none bs' = .ok cs' := by
  rw [decodeFrom] at h
  split at h
  · rename_i hascii
    obtain ⟨cs', rfl, hrest⟩ := exists_of_map_eq_ok h
    refine ⟨_, cs', bs, _, rfl, ?_, hrest⟩
    rw [utf8Bytes, toNat_ofNat_of_scalar (by omega), if_pos hascii, UInt8.ofNat_toNat,
      List.singleton_append]
  split at h
  · cases h
  · rename_i bits missing low high hlead
    obtain ⟨b₁, bs₁, rfl, hlow, hhigh, h⟩ := exists_of_decodeFrom_some h
    dsimp only at hlow hhigh h
    rcases leadByte?_eq_some hlead with ⟨rfl, hb, hleast, hbits, rfl, rfl⟩ |
      ⟨rfl, hb, hbits, hlow', hhigh', hleast, hmost⟩ |
      ⟨rfl, hb, hbits, hlow', hhigh', hleast, hmost⟩
    · rw [if_pos (by decide)] at h
      obtain ⟨cs', rfl, hrest⟩ := h
      refine ⟨_, cs', bs₁, _, rfl, ?_, hrest⟩
      rw [utf8Bytes_two hb ⟨hleast, hbits⟩ ⟨hlow, hhigh⟩]
      rfl
    · rw [if_neg (by decide)] at h
      obtain ⟨b₂, bs₂, rfl, hlow₂, hhigh₂, h⟩ := exists_of_decodeFrom_some h
      dsimp only at hlow₂ hhigh₂ h
      rw [if_pos (by decide)] at h
      obtain ⟨cs', rfl, hrest⟩ := h
      refine ⟨_, cs', bs₂, _, rfl, ?_, hrest⟩
      rw [utf8Bytes_three hb hbits (by omega) (by omega) (by omega) ⟨hlow₂, hhigh₂⟩]
      rfl
    · rw [if_neg (by decide)] at h
      obtain ⟨b₂, bs₂, rfl, hlow₂, hhigh₂, h⟩ := exists_of_decodeFrom_some h
      dsimp only at hlow₂ hhigh₂ h
      rw [if_neg (by decide)] at h
      obtain ⟨b₃, bs₃, rfl, hlow₃, hhigh₃, h⟩ := exists_of_decodeFrom_some h
      dsimp only at hlow₃ hhigh₃ h
      rw [if_pos (by decide)] at h
      obtain ⟨cs', rfl, hrest⟩ := h
      refine ⟨_, cs', bs₃, _, rfl, ?_, hrest⟩
      rw [utf8Bytes_four hb hbits (by omega) (by omega) (by omega) ⟨hlow₂, hhigh₂⟩
        ⟨hlow₃, hhigh₃⟩]
      rfl

theorem encodeUtf8_of_decodeFrom (h : decodeFrom position none bs = .ok cs) :
    encodeUtf8 cs = bs := by
  induction hlength : bs.length using Nat.strongRecOn generalizing bs cs position with
  | ind n ih =>
    cases bs with
    | nil =>
        cases h
        rfl
    | cons b bs =>
        obtain ⟨c, cs', bs', next, rfl, hbytes, hrest⟩ := exists_of_decodeFrom h
        have hshort : bs'.length < n := by
          have hsize := congrArg List.length hbytes
          have hpos := length_utf8Bytes_pos c
          rw [List.length_append] at hsize
          omega
        rw [encodeUtf8, List.flatMap_cons, ← encodeUtf8, ih _ hshort hrest rfl, hbytes]

/-- **Bytes that are read as a text are the bytes of the text.** -/
theorem encodeUtf8_of_decodeUtf8 (h : decodeUtf8 bs = .ok cs) : encodeUtf8 cs = bs :=
  encodeUtf8_of_decodeFrom h

/-! ### Line ends -/

variable {ds : List Char}

theorem unifyLineEnds_eq_self (h : '\r' ∉ cs) : unifyLineEnds cs = cs := by
  fun_induction unifyLineEnds cs with
  | case1 => rfl
  | case2 => simp at h
  | case3 c r _ ih =>
      rw [List.mem_cons, not_or] at h
      rw [if_neg (Ne.symm h.1), ih h.2]

theorem carriageReturn_mem_encodeUtf8 : 0x0D ∈ encodeUtf8 cs ↔ '\r' ∈ cs := by
  have hbyte (c : Char) : 0x0D ∈ utf8Bytes c ↔ c = '\r' := by
    rw [← Char.toNat_inj]
    exact ofNat_mem_utf8Bytes_iff (by decide)
  rw [encodeUtf8, List.mem_flatMap]
  simp only [hbyte, exists_eq_right]

theorem not_mem_unifyLineEnds (cs : List Char) : '\r' ∉ unifyLineEnds cs := by
  fun_induction unifyLineEnds cs with
  | case1 => exact List.not_mem_nil
  | case2 r ih => simpa using ih
  | case3 c r _ ih =>
      rw [List.mem_cons, not_or]
      refine ⟨?_, ih⟩
      split
      · decide
      · exact Ne.symm ‹_›

/-! ### Portable texts -/

/-- A text that is read from a file as it was written. -/
structure Portable (cs : List Char) : Prop where
  bytes : hasHalf cs = false
  lineEnds : '\r' ∉ cs

theorem portable_iff : Portable cs ↔ hasHalf cs = false ∧ '\r' ∉ cs :=
  ⟨fun ⟨hbytes, hlineEnds⟩ => ⟨hbytes, hlineEnds⟩, fun ⟨hbytes, hlineEnds⟩ => ⟨hbytes, hlineEnds⟩⟩

instance : DecidablePred Portable := fun _ => decidable_of_iff _ portable_iff.symm

theorem portable_of_forall (h : ∀ c ∈ cs, half? c = none ∧ c ≠ '\r') : Portable cs := by
  refine ⟨?_, fun hmem => (h _ hmem).2 rfl⟩
  rw [hasHalf, List.any_eq_false]
  intro c hc
  rw [(h c hc).1]
  exact Bool.false_ne_true

theorem portable_append : Portable (cs ++ ds) ↔ Portable cs ∧ Portable ds := by
  rw [portable_iff, portable_iff, portable_iff, hasHalf_append, Bool.or_eq_false_iff,
    List.mem_append, not_or]
  exact and_and_and_comm

theorem Portable.intercalate {sep : List Char} {texts : List (List Char)} (hsep : Portable sep)
    (h : ∀ cs ∈ texts, Portable cs) : Portable (sep.intercalate texts) := by
  induction texts with
  | nil => exact ⟨rfl, List.not_mem_nil⟩
  | cons cs texts ih =>
      obtain ⟨hcs, htexts⟩ := List.forall_mem_cons.mp h
      cases texts with
      | nil => simpa using hcs
      | cons ds texts =>
          rw [List.intercalate_cons_cons]
          exact portable_append.mpr ⟨portable_append.mpr ⟨hcs, hsep⟩, ih htexts⟩

end ChangeGate.Text
