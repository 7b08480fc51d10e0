import SmartQuotes.Text.Utf8

/-!
# UTF-8 there and back

A text is written as bytes character by character. Bytes are read as a text exactly if they are those
of this text, so that what is written is read as it was, and what is read and not changed is written
with the same bytes.
-/

namespace SmartQuotes.Utf8

/-- The bytes in front of `r` are so many further ones of a character; `v` are its bits. -/
def Continues (count low high bits : Nat) (bytes : List UInt8) (v : Nat) (r : List UInt8) : Prop :=
  match count with
  | 0 => v = bits ∧ r = bytes
  | count + 1 => ∃ b rest, bytes = b :: rest ∧ low ≤ b.toNat ∧ b.toNat ≤ high ∧
      Continues count 0x80 0xbf (bits * 64 + (b.toNat - 0x80)) rest v r

theorem exists_continue_iff {count low high bits : Nat} (read : Nat) {bytes : List UInt8} {v : Nat}
    {r : List UInt8} : (∃ h, continue_ count low high bits read bytes = .ok (v, ⟨r, h⟩)) ↔
      Continues count low high bits bytes v r := by
  induction count generalizing low high bits read bytes with
  | zero =>
    simp only [continue_, Continues]
    constructor
    · rintro ⟨h, heq⟩
      cases heq
      exact ⟨rfl, rfl⟩
    · rintro ⟨rfl, rfl⟩
      exact ⟨Nat.le_refl _, rfl⟩
  | succ count ih =>
    cases bytes with
    | nil =>
      simp only [continue_, Continues]
      exact ⟨nofun, nofun⟩
    | cons b rest =>
      simp only [continue_, Continues, Bool.and_eq_true, decide_eq_true_eq]
      by_cases hb : low ≤ b.toNat ∧ b.toNat ≤ high
      · rw [if_pos hb]
        constructor
        · rintro ⟨h, heq⟩
          split at heq
          · cases heq
          · next bits' r' h' hrest =>
            cases heq
            exact ⟨b, rest, rfl, hb.1, hb.2, (ih (read + 1)).mp ⟨h', hrest⟩⟩
        · rintro ⟨_, _, heq, -, -, hrest⟩
          cases heq
          obtain ⟨h, hrest⟩ := (ih (read + 1)).mpr hrest
          rw [hrest]
          exact ⟨by rw [List.length_cons]; omega, rfl⟩
      · rw [if_neg hb]
        constructor
        · rintro ⟨_, heq⟩
          cases heq
        · rintro ⟨_, _, heq, hlow, hhigh, -⟩
          cases heq
          exact absurd ⟨hlow, hhigh⟩ hb

/-! ## Characters -/

/-- The first byte of a character tells how many bytes follow; the next one is bounded so that no
character is written with more bytes than it takes, and so that it is one. -/
theorem follow?_eq_some_iff {n count low high : Nat} : follow? n = some (count, low, high) ↔
    (n < 0x80 ∧ count = 0 ∧ low = 0 ∧ high = 0) ∨
    (0xc2 ≤ n ∧ n < 0xe0 ∧ count = 1 ∧ low = 0x80 ∧ high = 0xbf) ∨
    (0xe0 ≤ n ∧ n < 0xf0 ∧ count = 2 ∧ low = (if n = 0xe0 then 0xa0 else 0x80) ∧
      high = (if n = 0xed then 0x9f else 0xbf)) ∨
    (0xf0 ≤ n ∧ n ≤ 0xf4 ∧ count = 3 ∧ low = (if n = 0xf0 then 0x90 else 0x80) ∧
      high = (if n = 0xf4 then 0x8f else 0xbf)) := by
  unfold follow?
  repeat' split
  all_goals
    simp only [Option.some.injEq, Prod.mk.injEq, reduceCtorEq, false_iff]
    omega

theorem leadBits_zero (n : Nat) : leadBits n 0 = n := rfl

theorem leadBits_one (n : Nat) : leadBits n 1 = n - 0xc0 := rfl

theorem leadBits_two (n : Nat) : leadBits n 2 = n - 0xe0 := rfl

theorem leadBits_three (n : Nat) : leadBits n 3 = n - 0xf0 := rfl

/-- The bytes of a character, by how many they are. -/
inductive Spells (v : Nat) : List UInt8 → Prop
  | one {a : UInt8} : v < 0x80 → a.toNat = v → Spells v [a]
  | two {a b : UInt8} : 0x80 ≤ v → v < 0x800 → a.toNat = 0xc0 + v / 64 → b.toNat = 0x80 + v % 64 →
    Spells v [a, b]
  | three {a b c : UInt8} : 0x800 ≤ v → v < 0x10000 → a.toNat = 0xe0 + v / 4096 →
    b.toNat = 0x80 + v / 64 % 64 → c.toNat = 0x80 + v % 64 → Spells v [a, b, c]
  | four {a b c d : UInt8} : 0x10000 ≤ v → v < 0x110000 → a.toNat = 0xf0 + v / 262144 →
    b.toNat = 0x80 + v / 4096 % 64 → c.toNat = 0x80 + v / 64 % 64 → d.toNat = 0x80 + v % 64 →
    Spells v [a, b, c, d]

theorem Spells.exists_cons {v : Nat} {bs : List UInt8} (h : Spells v bs) :
    ∃ b rest, bs = b :: rest := by
  cases h <;> exact ⟨_, _, rfl⟩

theorem spells_encodeChar (c : Char) : Spells c.toNat (String.utf8EncodeChar c) := by
  have hvalid : c.toNat < 0xd800 ∨ 0xdfff < c.toNat ∧ c.toNat < 0x110000 := c.valid
  unfold String.utf8EncodeChar
  simp only [show c.val.toNat = c.toNat from rfl]
  generalize c.toNat = v at hvalid ⊢
  split
  · refine .one (by omega) ?_
    rw [UInt8.toNat_ofNat']
    omega
  · split
    · refine .two (by omega) (by omega) ?_ ?_
      all_goals
        rw [UInt8.toNat_ofNat']
        omega
    · split
      · refine .three (by omega) (by omega) ?_ ?_ ?_
        all_goals
          rw [UInt8.toNat_ofNat']
          omega
      · refine .four (by omega) (by omega) ?_ ?_ ?_ ?_
        all_goals
          rw [UInt8.toNat_ofNat']
          omega

/-- A number is spelled by one list of bytes only. -/
theorem Spells.unique {v : Nat} {bs bs' : List UInt8} (h : Spells v bs) (h' : Spells v bs') :
    bs = bs' := by
  cases h <;> cases h' <;> first
    | omega
    | simp only [List.cons.injEq, and_true, ← UInt8.toNat_inj]
      omega

/-- Bytes that are read as a character spell it. -/
theorem exists_spells {b : UInt8} {rest : List UInt8} {v : Nat} {r : List UInt8}
    {count low high : Nat} (hfollow : follow? b.toNat = some (count, low, high))
    (hrest : Continues count low high (leadBits b.toNat count) rest v r) :
    v.isValidChar ∧ ∃ bs, Spells v bs ∧ b :: rest = bs ++ r := by
  unfold Nat.isValidChar
  rcases follow?_eq_some_iff.mp hfollow with ⟨hb, rfl, -, -⟩ | ⟨hb, hb', rfl, rfl, rfl⟩ |
    ⟨hb, hb', rfl, hlow, hhigh⟩ | ⟨hb, hb', rfl, hlow, hhigh⟩
  · obtain ⟨hv, rfl⟩ := hrest
    rw [leadBits_zero] at hv
    exact ⟨by omega, [b], .one (by omega) hv.symm, rfl⟩
  · obtain ⟨b₁, _, rfl, h₁, h₁', hv, rfl⟩ := hrest
    rw [leadBits_one] at hv
    refine ⟨by omega, [b, b₁], .two ?_ ?_ ?_ ?_, rfl⟩
    all_goals omega
  · obtain ⟨b₁, _, rfl, h₁, h₁', b₂, _, rfl, h₂, h₂', hv, rfl⟩ := hrest
    rw [leadBits_two] at hv
    have hbounds : 0x80 ≤ b₁.toNat ∧ b₁.toNat ≤ 0xbf ∧ 0x800 ≤ v ∧
        (v < 0xd800 ∨ 0xdfff < v) := by
      split at hlow <;> split at hhigh <;> omega
    refine ⟨by omega, [b, b₁, b₂], .three ?_ ?_ ?_ ?_ ?_, rfl⟩
    all_goals omega
  · obtain ⟨b₁, _, rfl, h₁, h₁', b₂, _, rfl, h₂, h₂', b₃, _, rfl, h₃, h₃', hv, rfl⟩ := hrest
    rw [leadBits_three] at hv
    have hbounds : 0x80 ≤ b₁.toNat ∧ b₁.toNat ≤ 0xbf ∧ 0x10000 ≤ v ∧ v < 0x110000 := by
      split at hlow <;> split at hhigh <;> omega
    refine ⟨by omega, [b, b₁, b₂, b₃], .four ?_ ?_ ?_ ?_ ?_ ?_, rfl⟩
    all_goals omega

/-- Bytes that spell a character are read as it. -/
theorem Spells.exists_follow {b : UInt8} {rest : List UInt8} {v : Nat} {bs r : List UInt8}
    (hspells : Spells v bs) (hvalid : v.isValidChar) (heq : b :: rest = bs ++ r) :
    ∃ count low high, follow? b.toNat = some (count, low, high) ∧
      Continues count low high (leadBits b.toNat count) rest v r := by
  unfold Nat.isValidChar at hvalid
  cases hspells with
  | one hv ha =>
    obtain ⟨rfl, rfl⟩ := List.cons.inj heq
    refine ⟨0, 0, 0, follow?_eq_some_iff.mpr (Or.inl (by omega)), ?_⟩
    rw [leadBits_zero]
    exact ⟨ha.symm, rfl⟩
  | @two _ b₁ hv hv' ha hb =>
    obtain ⟨rfl, rfl⟩ := List.cons.inj heq
    refine ⟨1, _, _, follow?_eq_some_iff.mpr (Or.inr (Or.inl ⟨?_, ?_, rfl, rfl, rfl⟩)), ?_⟩
    · omega
    · omega
    · rw [leadBits_one]
      exact ⟨b₁, r, rfl, by omega, by omega, by omega, rfl⟩
  | @three _ b₁ b₂ hv hv' ha hb hc =>
    obtain ⟨rfl, rfl⟩ := List.cons.inj heq
    refine ⟨2, _, _,
      follow?_eq_some_iff.mpr (Or.inr (Or.inr (Or.inl ⟨?_, ?_, rfl, rfl, rfl⟩))), ?_⟩
    · omega
    · omega
    · rw [leadBits_two]
      refine ⟨b₁, b₂ :: r, rfl, ?_, ?_, b₂, r, rfl, by omega, by omega, by omega, rfl⟩
      · split <;> omega
      · split <;> omega
  | @four _ b₁ b₂ b₃ hv hv' ha hb hc hd =>
    obtain ⟨rfl, rfl⟩ := List.cons.inj heq
    refine ⟨3, _, _,
      follow?_eq_some_iff.mpr (Or.inr (Or.inr (Or.inr ⟨?_, ?_, rfl, rfl, rfl⟩))), ?_⟩
    · omega
    · omega
    · rw [leadBits_three]
      refine ⟨b₁, b₂ :: b₃ :: r, rfl, ?_, ?_, b₂, b₃ :: r, rfl, by omega, by omega, b₃, r, rfl,
        by omega, by omega, by omega, rfl⟩
      · split <;> omega
      · split <;> omega

/-- Bytes are read as a character exactly if they spell it. -/
theorem reads_iff {b : UInt8} {rest : List UInt8} {v : Nat} {r : List UInt8} :
    (∃ count low high, follow? b.toNat = some (count, low, high) ∧
        Continues count low high (leadBits b.toNat count) rest v r) ↔
      v.isValidChar ∧ ∃ bs, Spells v bs ∧ b :: rest = bs ++ r :=
  ⟨fun ⟨_, _, _, hfollow, hrest⟩ => exists_spells hfollow hrest,
    fun ⟨hvalid, _, hspells, heq⟩ => hspells.exists_follow hvalid heq⟩

/-! ## Texts -/

theorem decodeFrom_cons_iff {position : Nat} {b : UInt8} {rest : List UInt8} {t : Text} :
    decodeFrom position (b :: rest) = .ok t ↔ ∃ count low high v r u,
      follow? b.toNat = some (count, low, high) ∧
        Continues count low high (leadBits b.toNat count) rest v r ∧
        decodeFrom (position + count + 1) r = .ok u ∧ t = Char.ofNat v :: u := by
  rw [decodeFrom]
  constructor
  · intro h
    split at h
    · cases h
    · next count low high hfollow =>
      split at h
      · cases h
      · next v r hr hrest =>
        split at h
        · cases h
        · next u hu =>
          cases h
          exact ⟨count, low, high, v, r, u, hfollow, (exists_continue_iff 1).mp ⟨hr, hrest⟩, hu, rfl⟩
  · rintro ⟨count, low, high, v, r, u, hfollow, hrest, hu, rfl⟩
    obtain ⟨hr, hrest⟩ := (exists_continue_iff 1).mpr hrest
    rw [hfollow]
    simp only [hrest, hu]

/-- A text is read from its bytes. -/
theorem decodeFrom_encode (position : Nat) (t : Text) :
    decodeFrom position (encode t) = .ok t := by
  induction t generalizing position with
  | nil => rw [encode, List.flatMap_nil, decodeFrom]
  | cons c t ih =>
    have hbytes : encode (c :: t) = String.utf8EncodeChar c ++ encode t := List.flatMap_cons
    obtain ⟨b, rest, hcons⟩ : ∃ b rest, encode (c :: t) = b :: rest := by
      obtain ⟨b, rest, heq⟩ := (spells_encodeChar c).exists_cons
      exact ⟨b, rest ++ encode t, by rw [hbytes, heq, List.cons_append]⟩
    obtain ⟨count, low, high, hfollow, hrest⟩ := (reads_iff (r := encode t)).mpr
      ⟨c.valid, _, spells_encodeChar c, hcons.symm.trans hbytes⟩
    rw [hcons, decodeFrom_cons_iff]
    exact ⟨count, low, high, _, _, t, hfollow, hrest, ih _,
      congrArg (· :: t) c.ofNat_toNat.symm⟩

/-- Bytes that are read as a text are the bytes of this text. -/
theorem eq_encode_of_decodeFrom {position : Nat} {bytes : List UInt8} {t : Text}
    (h : decodeFrom position bytes = .ok t) : bytes = encode t := by
  induction hn : bytes.length using Nat.strongRecOn generalizing position bytes t with
  | _ n ih =>
    cases bytes with
    | nil =>
      rw [decodeFrom] at h
      cases h
      rfl
    | cons b rest =>
      obtain ⟨count, low, high, v, r, u, hfollow, hrest, hu, rfl⟩ := decodeFrom_cons_iff.mp h
      obtain ⟨hvalid, bs, hspells, hbytes⟩ := reads_iff.mp ⟨count, low, high, hfollow, hrest⟩
      have hlength : r.length < n := by
        rw [← hn, hbytes, List.length_append]
        obtain ⟨a, more, rfl⟩ := hspells.exists_cons
        rw [List.length_cons]
        omega
      have hchar : (Char.ofNat v).toNat = v := by
        rw [Char.ofNat, dif_pos hvalid]
        rfl
      have hspelled := spells_encodeChar (Char.ofNat v)
      rw [hchar] at hspelled
      rw [hbytes, ih _ hlength hu rfl, hspells.unique hspelled]
      exact List.flatMap_cons.symm

/-- Bytes are a text exactly if they are the bytes of that text. -/
theorem decode_eq_ok_iff {bytes : List UInt8} {t : Text} :
    decode bytes = .ok t ↔ bytes = encode t := by
  constructor
  · exact eq_encode_of_decodeFrom
  · rintro rfl
    exact decodeFrom_encode 0 t

end SmartQuotes.Utf8
