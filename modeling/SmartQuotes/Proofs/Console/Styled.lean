import Mathlib.Data.List.TakeWhile
import SmartQuotes.Console.Styled
import SmartQuotes.Proofs.Console.Emoji

/-!
# Texts that are shown as they are

A text without tags is shown as plain text. Escaping puts an odd number of backslashes in front of
each tag, so that a text that was escaped has no tag that is obeyed: showing it never fails, and all
of it is shown (`shown_escape`). What is lost even then are codes of emoji, control characters, and
a backslash in front of a bracket that begins no tag. A word in brackets that is not escaped is lost
as a tag (`shown_opened`), and behind a slash it keeps the text from being shown (`shown_closed`).
-/

namespace SmartQuotes.Console

/-! ## Names of one word -/

namespace Style

/-- A name of one word in small letters that is no attribute and no color of three parts. -/
structure IsWord (w : Text) : Prop where
  words : wordsOf w = [w]
  strip : w.strip = w
  lower : w.lower = w
  ne_none : w ≠ text "none"
  noAttribute : attribute? w = none
  noParts : argument? "rgb" w = none

/-- Such a name is its own normal form, whether it is that of a color or not. -/
theorem IsWord.normalName?_eq {w : Text} (h : IsWord w) : normalName? w = some w := by
  have hread : ∃ valid, readColor w = requireColor valid := by
    rw [readColor, h.noParts]
    exact ⟨_, rfl⟩
  obtain ⟨valid, hread⟩ := hread
  have hadd : addWords {} (wordsOf w) =
      (requireColor valid).map fun _ => { color := some w } := by
    rw [h.words, addWords, h.lower, h.noAttribute, hread]
    cases valid with
    | _ => rfl
  rw [normalName?, h.strip, if_neg (by rw [beq_iff_eq]; exact h.ne_none), hadd]
  cases valid with
  | true => exact congrArg some (List.append_nil w)
  | false => exact congrArg some h.lower

end Style

namespace Part

/-! ## The tag in front of a text -/

/-- What may stand between the brackets of a tag. -/
def IsBody (body : Text) : Prop := ∃ c t, body = c :: t ∧ beginsTag c ∧ t.all isInner

theorem body?_eq_some_iff {inner body rest : Text} :
    body? inner = some (body, rest) ↔ inner = body ++ ']' :: rest ∧ IsBody body := by
  constructor
  · intro h
    cases inner with
    | nil => cases h
    | cons c t =>
      simp only [body?, Option.ite_none_right_eq_some, Bool.and_eq_true, beq_iff_eq,
        Option.some.injEq, Prod.mk.injEq] at h
      obtain ⟨⟨hbegins, hclosed⟩, rfl, rfl⟩ := h
      refine ⟨?_, c, _, rfl, hbegins, List.all_takeWhile⟩
      have hrest : t.dropWhile isInner = ']' :: (t.dropWhile isInner).tail :=
        List.eq_cons_of_mem_head? hclosed
      rw [← hrest, List.cons_append, List.takeWhile_append_dropWhile]
  · rintro ⟨rfl, c, t, rfl, hbegins, hinner⟩
    have hall : ∀ d ∈ t, isInner d = true := List.all_eq_true.mp hinner
    have hclosing : isInner ']' = false := rfl
    simp only [List.cons_append, body?, hbegins, List.takeWhile_append_of_pos hall,
      List.dropWhile_append_of_pos hall, List.takeWhile_cons, List.dropWhile_cons, hclosing]
    simp

theorem body?_nil : body? [] = none := rfl

theorem body?_cons_eq_none {c : Char} {t : Text} (h : beginsTag c = false) :
    body? (c :: t) = none := by
  rw [body?, h]
  rfl

theorem found?_eq_none_iff {t : Text} : found? t = none ↔
    ∀ inner, t.dropWhile (· == '\\') = '[' :: inner → body? inner = none := by
  unfold found?
  split
  · next inner ht =>
    split
    · next body rest hbody =>
      refine iff_of_false nofun fun h => ?_
      rw [h inner ht] at hbody
      cases hbody
    · next hbody =>
      refine iff_of_true rfl fun inner' hinner' => ?_
      cases ht.symm.trans hinner'
      exact hbody
  · next hother => exact iff_of_true rfl fun inner hinner => absurd hinner (hother inner)

/-- A tag that is found is written in front of what is left. -/
theorem of_found? {t : Text} {f : Found t} (h : found? t = some f) :
    t = (tag f.slashes f.body).written ++ f.rest ∧ IsBody f.body := by
  unfold found? at h
  split at h
  · next inner ht =>
    split at h
    · next body rest hfound =>
      cases h
      obtain ⟨rfl, hbody⟩ := body?_eq_some_iff.mp hfound
      refine ⟨?_, hbody⟩
      have hslashes : backslashes (t.takeWhile (· == '\\')).length = t.takeWhile (· == '\\') :=
        (List.eq_replicate_of_mem fun c hc =>
          beq_iff_eq.mp (List.all_eq_true.mp List.all_takeWhile c hc)).symm
      conv_lhs => rw [← List.takeWhile_append_dropWhile (p := (· == '\\')) (l := t), ht]
      simp only [written, hslashes, brackets, List.append_assoc, List.cons_append, List.nil_append]
    · cases h
  · cases h

theorem dropWhile_backslashes (n : Nat) (t : Text) :
    (backslashes n ++ t).dropWhile (· == '\\') = t.dropWhile (· == '\\') :=
  List.dropWhile_append_of_pos fun _ hc => beq_iff_eq.mpr (List.eq_of_mem_replicate hc)

/-- A tag is found where it is written. -/
theorem exists_found? (n : Nat) {body : Text} (hbody : IsBody body) (rest : Text) :
    ∃ f, found? ((tag n body).written ++ rest) = some f ∧ f.slashes = n ∧ f.body = body ∧
      f.rest = rest := by
  have hdrop : ((tag n body).written ++ rest).dropWhile (· == '\\') =
      '[' :: (body ++ ']' :: rest) := by
    rw [written, List.append_assoc, dropWhile_backslashes, brackets]
    simp
  have hinner : body? (body ++ ']' :: rest) = some (body, rest) :=
    body?_eq_some_iff.mpr ⟨rfl, hbody⟩
  cases hfound : found? ((tag n body).written ++ rest) with
  | none =>
    rw [found?_eq_none_iff.mp hfound _ hdrop] at hinner
    cases hinner
  | some f =>
    obtain ⟨ht, hf⟩ := of_found? hfound
    refine ⟨f, rfl, ?_⟩
    have htake : ∀ (m : Nat) (b r : Text),
        (((tag m b).written ++ r).takeWhile (· == '\\')).length = m := by
      intro m b r
      rw [written, List.append_assoc, List.takeWhile_append_of_pos, brackets]
      · simp [backslashes]
      · exact fun _ hc => beq_iff_eq.mpr (List.eq_of_mem_replicate hc)
    have hn : f.slashes = n := by rw [← htake f.slashes f.body f.rest, ← ht, htake]
    rw [ht, written, List.append_assoc, dropWhile_backslashes, brackets] at hdrop
    have hsame : f.body ++ ']' :: f.rest = body ++ ']' :: rest := by simpa using hdrop
    have hinner' : body? (f.body ++ ']' :: f.rest) = some (f.body, f.rest) :=
      body?_eq_some_iff.mpr ⟨rfl, hf⟩
    rw [hsame, hinner] at hinner'
    obtain ⟨hb, hr⟩ := Prod.mk.inj (Option.some.inj hinner')
    exact ⟨hn, hb.symm, hr.symm⟩

/-! ## The parts of a text -/

theorem ofText_nil : ofText [] = [] := by rw [ofText]

theorem ofText_of_found? {t : Text} {f : Found t} (h : found? t = some f) :
    ofText t = tag f.slashes f.body :: ofText f.rest := by
  cases t with
  | nil => exact absurd f.rest_lt (Nat.not_lt_zero _)
  | cons c t => rw [ofText, h]

theorem ofText_written (n : Nat) {body : Text} (hbody : IsBody body) (rest : Text) :
    ofText ((tag n body).written ++ rest) = tag n body :: ofText rest := by
  obtain ⟨f, hfound, hn, hb, hr⟩ := exists_found? n hbody rest
  rw [ofText_of_found? hfound, hn, hb, hr]

theorem ofText_cons {c : Char} {t : Text} (h : found? (c :: t) = none) :
    ofText (c :: t) = consPlain c (ofText t) := by
  rw [ofText, h]

/-- A text is empty, or it starts with a tag, or with a character in front of which no tag is
found. -/
theorem text_induction {P : Text → Prop} (nil : P [])
    (tagged : ∀ n body rest, IsBody body → P rest → P ((tag n body).written ++ rest))
    (cons : ∀ c t, found? (c :: t) = none → P t → P (c :: t)) (t : Text) : P t := by
  induction t using ofText.induct with
  | case1 => exact nil
  | case2 c t f hf ih =>
    obtain ⟨ht, hbody⟩ := of_found? hf
    rw [ht]
    exact tagged _ _ _ hbody ih
  | case3 c t hf ih => exact cons c t hf ih

theorem flatMap_consPlain {f : Part → Text} {c : Char}
    (hf : ∀ t, f (plain (c :: t)) = c :: f (plain t)) (hnil : f (plain []) = []) (ps : List Part) :
    (consPlain c ps).flatMap f = c :: ps.flatMap f := by
  have hplain : f (plain [c]) = [c] := by rw [hf, hnil]
  unfold consPlain
  split
  · rw [List.flatMap_cons, List.flatMap_cons, hf, List.cons_append]
  · rw [List.flatMap_cons, hplain, List.singleton_append]

/-- The parts of a text are written as the text. -/
theorem flatMap_written (t : Text) : (ofText t).flatMap written = t := by
  induction t using text_induction with
  | nil => rw [ofText_nil, List.flatMap_nil]
  | tagged n body rest hbody ih => rw [ofText_written n hbody, List.flatMap_cons, ih]
  | cons c t hfound ih =>
    rw [ofText_cons hfound, flatMap_consPlain (fun _ => rfl) rfl, ih]

/-! ## Escaping -/

/-- A part with the backslashes that keep it as it is. -/
def harden : Part → Part
  | plain t => plain t
  | tag n body => tag (2 * n + 1) body

/-- A text with the backslashes that keep each tag as it is. -/
def hardened (t : Text) : Text := (ofText t).flatMap escaped

theorem hardened_nil : hardened [] = [] := by rw [hardened, ofText_nil, List.flatMap_nil]

theorem hardened_written (n : Nat) {body : Text} (hbody : IsBody body) (rest : Text) :
    hardened ((tag n body).written ++ rest) =
      (tag (2 * n + 1) body).written ++ hardened rest := by
  rw [hardened, ofText_written n hbody, List.flatMap_cons]
  rfl

theorem hardened_cons {c : Char} {t : Text} (h : found? (c :: t) = none) :
    hardened (c :: t) = c :: hardened t := by
  rw [hardened, ofText_cons h, flatMap_consPlain (fun _ => rfl) rfl]
  rfl

theorem isInner_backslash : isInner '\\' = true := rfl

/-- Escaping changes nothing of where a bracket comes first. -/
theorem head?_dropWhile_hardened (t : Text) :
    ((hardened t).dropWhile isInner).head? = (t.dropWhile isInner).head? := by
  have htag : ∀ n body rest,
      (((tag n body).written ++ rest).dropWhile isInner).head? = some '[' := by
    intro n body rest
    rw [written, List.append_assoc, List.dropWhile_append_of_pos, brackets]
    · rfl
    · exact fun c hc => by rw [List.eq_of_mem_replicate hc, isInner_backslash]
  induction t using text_induction with
  | nil => rw [hardened_nil]
  | tagged n body rest hbody ih => rw [hardened_written n hbody, htag, htag]
  | cons c t hfound ih =>
    rw [hardened_cons hfound, List.dropWhile_cons, List.dropWhile_cons]
    split
    · exact ih
    · rfl

/-- What is no tag behind a bracket is none after escaping. -/
theorem body?_hardened {t : Text} (h : body? t = none) : body? (hardened t) = none := by
  induction t using text_induction with
  | nil => rw [hardened_nil, body?_nil]
  | tagged n body rest hbody ih =>
    rw [hardened_written n hbody, written, backslashes, List.replicate_succ]
    exact body?_cons_eq_none rfl
  | cons c t hfound _ =>
    rw [hardened_cons hfound]
    rw [body?] at h ⊢
    rw [head?_dropWhile_hardened]
    split at h
    · cases h
    · next hcond => rw [if_neg hcond]

theorem found?_nil : found? [] = none := rfl

theorem found?_backslash_cons (t : Text) :
    found? ('\\' :: t) = none ↔ found? t = none := by
  rw [found?_eq_none_iff, found?_eq_none_iff]
  exact Iff.rfl

theorem found?_bracket_cons (t : Text) : found? ('[' :: t) = none ↔ body? t = none := by
  rw [found?_eq_none_iff]
  constructor
  · exact fun h => h t rfl
  · rintro h _ ⟨⟩
    exact h

theorem found?_cons_eq_none {c : Char} (hbackslash : c ≠ '\\') (hbracket : c ≠ '[') (t : Text) :
    found? (c :: t) = none := by
  refine found?_eq_none_iff.mpr fun inner hinner => ?_
  rw [List.dropWhile_cons, if_neg (by rwa [beq_iff_eq])] at hinner
  exact absurd (List.cons.inj hinner).1 hbracket

/-- Where no tag is found, none is found after escaping. -/
theorem found?_hardened {t : Text} (h : found? t = none) : found? (hardened t) = none := by
  induction t with
  | nil => rw [hardened_nil, found?_nil]
  | cons c t ih =>
    rw [hardened_cons h]
    by_cases hbackslash : c = '\\'
    · subst hbackslash
      exact (found?_backslash_cons _).mpr (ih ((found?_backslash_cons t).mp h))
    · by_cases hbracket : c = '['
      · subst hbracket
        exact (found?_bracket_cons _).mpr (body?_hardened ((found?_bracket_cons t).mp h))
      · exact found?_cons_eq_none hbackslash hbracket _

theorem found?_cons_hardened {c : Char} {t : Text} (h : found? (c :: t) = none) :
    found? (c :: hardened t) = none := by
  rw [← hardened_cons h]
  exact found?_hardened h

theorem map_harden_consPlain (c : Char) (ps : List Part) :
    (consPlain c ps).map harden = consPlain c (ps.map harden) := by
  cases ps with
  | nil => rfl
  | cons p ps =>
    cases p with
    | _ => rfl

/-- The parts of an escaped text are those of the text, with the backslashes that keep them. -/
theorem ofText_hardened (t : Text) : ofText (hardened t) = (ofText t).map harden := by
  induction t using text_induction with
  | nil => rw [hardened_nil, ofText_nil, List.map_nil]
  | tagged n body rest hbody ih =>
    rw [hardened_written n hbody, ofText_written _ hbody, ofText_written n hbody, ih, List.map_cons,
      harden]
  | cons c t hfound ih =>
    rw [hardened_cons hfound, ofText_cons (found?_cons_hardened hfound), ih, ofText_cons hfound,
      map_harden_consPlain]

theorem getLast?_hardened (t : Text) : (hardened t).getLast? = t.getLast? := by
  induction t using text_induction with
  | nil => rw [hardened_nil]
  | tagged n body rest hbody ih =>
    rw [hardened_written n hbody, List.getLast?_append, List.getLast?_append, ih]
    congr 1
    simp only [written, brackets, List.getLast?_append]
    rfl
  | cons c t hfound ih => rw [hardened_cons hfound, List.getLast?_cons, List.getLast?_cons, ih]

end Part

namespace Styled

open SmartQuotes.Console.Part

/-! ## Texts without tags -/

/-- No tag stands in the text. -/
def IsTagFree (t : Text) : Prop := ∀ inner, '[' :: inner <:+ t → body? inner = none

/-- No backslash stands in front of a bracket in the text, unless the bracket begins a tag. -/
def IsSlashFree (t : Text) : Prop := ∀ inner, '\\' :: '[' :: inner <:+ t → body? inner ≠ none

/-- No character of the text is a control character that is not shown. -/
def IsControlFree (t : Text) : Prop := ∀ c ∈ t, isControl c = false

theorem isTagFree_iff {t : Text} :
    IsTagFree t ↔ ∀ u ∈ t.tails, u.head? = some '[' → body? u.tail = none := by
  simp only [IsTagFree, List.mem_tails]
  constructor
  · intro h u hu hbracket
    exact h u.tail (List.eq_cons_of_mem_head? hbracket ▸ hu)
  · exact fun h inner hinner => h _ hinner rfl

theorem isSlashFree_iff {t : Text} :
    IsSlashFree t ↔ ∀ u ∈ t.tails, u.take 2 = ['\\', '['] → body? (u.drop 2) ≠ none := by
  simp only [IsSlashFree, List.mem_tails]
  constructor
  · intro h u hu hslash
    refine h (u.drop 2) ?_
    rw [← List.take_append_drop 2 u, hslash] at hu
    exact hu
  · exact fun h inner hinner => h _ hinner rfl

instance (t : Text) : Decidable (IsTagFree t) := decidable_of_iff' _ isTagFree_iff

instance (t : Text) : Decidable (IsSlashFree t) := decidable_of_iff' _ isSlashFree_iff

theorem isControlFree_iff {t : Text} : IsControlFree t ↔ t.any isControl = false := by
  simp only [IsControlFree, List.any_eq_false, Bool.not_eq_true]

instance (t : Text) : Decidable (IsControlFree t) := decidable_of_iff' _ isControlFree_iff

theorem visible_eq_self {t : Text} (hcodes : Emoji.IsCodeFree t) (hcontrols : IsControlFree t) :
    visible t = t := by
  rw [visible, Emoji.replace_eq_self hcodes, List.filter_eq_self]
  exact fun c hc => by rw [hcontrols c hc, Bool.not_false]

theorem written_isInfix {t : Text} {p : Part} (h : p ∈ ofText t) : p.written <:+: t := by
  rw [← flatMap_written t, List.flatMap_def]
  exact List.infix_of_mem_flatten (List.mem_map_of_mem h)

theorem dropEscapes_cons {c : Char} {t : Text} (h : c = '\\' → t.head? ≠ some '[') :
    dropEscapes (c :: t) = c :: dropEscapes t := by
  rw [dropEscapes]
  rintro u hc rfl
  exact h hc rfl

/-- A character in front of parts is put in front of the plain text there, or stands alone. -/
theorem mem_consPlain {c : Char} {p : Text} {ps : List Part} (h : plain p ∈ consPlain c ps) :
    plain p ∈ ps ∨ p = [c] ∨ ∃ q, plain q ∈ ps.head? ∧ p = c :: q := by
  unfold consPlain at h
  split at h
  · next q ps =>
    rcases List.mem_cons.mp h with h | h
    · exact Or.inr (Or.inr ⟨q, rfl, Part.plain.inj h⟩)
    · exact Or.inl (List.mem_cons_of_mem _ h)
  · rcases List.mem_cons.mp h with h | h
    · exact Or.inr (Or.inl (Part.plain.inj h))
    · exact Or.inl h

/-- Plain text between the tags keeps its backslashes. -/
theorem dropEscapes_of_mem {t p : Text} (h : IsSlashFree t) (hp : plain p ∈ ofText t) :
    dropEscapes p = p := by
  induction t using text_induction generalizing p with
  | nil =>
    rw [ofText_nil] at hp
    cases hp
  | tagged n body rest hbody ih =>
    rw [ofText_written n hbody] at hp
    exact ih (fun inner hinner => h inner (hinner.trans (List.suffix_append _ _)))
      ((List.mem_cons.mp hp).resolve_left nofun)
  | cons c t hfound ih =>
    have ht : ∀ {q}, plain q ∈ ofText t → dropEscapes q = q :=
      ih fun inner hinner => h inner (hinner.trans (List.suffix_cons _ _))
    rw [ofText_cons hfound] at hp
    rcases mem_consPlain hp with hp | rfl | ⟨q, hq, rfl⟩
    · exact ht hp
    · rw [dropEscapes_cons (fun _ h => by cases h), dropEscapes]
    · have hmem : plain q ∈ ofText t := List.mem_of_mem_head? hq
      refine (dropEscapes_cons fun hc hbracket => ?_).trans (congrArg (c :: ·) (ht hmem))
      -- then the text goes on with a bracket, which would begin a tag behind the backslash
      obtain ⟨ps, hps⟩ : ∃ ps, ofText t = plain q :: ps :=
        ⟨_, List.eq_cons_of_mem_head? hq⟩
      have htext : t = q ++ ps.flatMap written := by
        rw [← flatMap_written t, hps]
        rfl
      obtain ⟨inner, rfl⟩ : ∃ inner, q = '[' :: inner := ⟨_, List.eq_cons_of_mem_head? hbracket⟩
      subst hc
      rw [htext] at h hfound
      exact h _ List.suffix_rfl
        ((found?_bracket_cons _).mp ((found?_backslash_cons _).mp hfound))

theorem dropEscapes_eq_self {t : Text} (h : ¬ ['\\', '['] <:+: t) : dropEscapes t = t := by
  induction t with
  | nil => rw [dropEscapes]
  | cons c t ih =>
    rw [List.infix_cons_iff, not_or] at h
    rw [dropEscapes_cons, ih h.2]
    rintro rfl hbracket
    refine h.1 ?_
    rw [List.eq_cons_of_mem_head? hbracket]
    exact List.prefix_append ['\\', '['] _

/-! ## Showing -/

/-- A text without tags is a single part. -/
theorem ofText_of_isTagFree {t : Text} (h : IsTagFree t) (hne : t ≠ []) : ofText t = [plain t] := by
  induction t using text_induction with
  | nil => exact absurd rfl hne
  | tagged n body rest hbody _ =>
    have hnone : body? (body ++ ']' :: rest) = none := by
      refine h _ ⟨backslashes n, ?_⟩
      simp only [written, brackets, List.append_assoc, List.cons_append, List.nil_append]
    rw [body?_eq_some_iff.mpr ⟨rfl, hbody⟩] at hnone
    cases hnone
  | cons c t hfound ih =>
    have ht : IsTagFree t := fun inner hinner => h inner (hinner.trans (List.suffix_cons _ _))
    rw [ofText_cons hfound]
    by_cases hnil : t = []
    · rw [hnil, ofText_nil]
      rfl
    · rw [ih ht hnil]
      rfl

theorem areReadable_empty : Tags.areReadable {} = true := rfl

theorem showParts_nil (position : Nat) : showParts {} position [] = .ok [] := by
  rw [showParts, areReadable_empty, if_pos rfl]

theorem showParts_plain (position : Nat) (t : Text) :
    showParts {} position [plain t] = .ok (visible (dropEscapes t)) := by
  simp only [showParts, areReadable_empty, if_true, bind, Except.bind, pure, Except.pure,
    List.append_nil]

theorem isTagFree_of_not_mem {t : Text} (h : '[' ∉ t) : IsTagFree t :=
  fun _ hinner => absurd (hinner.subset List.mem_cons_self) h

theorem shown_of_isTagFree {t : Text} (h : IsTagFree t) :
    shown t = .ok (visible (dropEscapes t)) := by
  rw [shown]
  split
  · next hbracket =>
    have hne : t ≠ [] := by
      rintro rfl
      cases hbracket
    rw [ofText_of_isTagFree h hne, showParts_plain]
  · next hbracket =>
    rw [dropEscapes_eq_self]
    intro hwithin
    exact hbracket (List.contains_iff_mem.mpr (hwithin.subset (by decide)))

/-- Showing goes part by part. -/
theorem shown_eq (t : Text) : shown t = showParts {} 0 (ofText t) := by
  rw [shown]
  split
  · rfl
  · next hbracket =>
    have hfree : IsTagFree t :=
      isTagFree_of_not_mem fun h => hbracket (List.contains_iff_mem.mpr h)
    by_cases hnil : t = []
    · subst hnil
      rw [ofText_nil, showParts_nil, visible, Emoji.replace, List.filter_nil]
    · have hshown := shown_of_isTagFree hfree
      rw [shown, if_neg hbracket] at hshown
      rw [hshown, ofText_of_isTagFree hfree hnil, showParts_plain]

/-- What is shown of a part whose tag is kept as it is. -/
def spelled : Part → Text
  | plain t => visible (dropEscapes t)
  | tag n body => backslashes n ++ visible (brackets body)

/-- No tag behind an odd number of backslashes is obeyed. -/
theorem showParts_map_harden (position : Nat) (ps : List Part) :
    showParts {} position (ps.map harden) = .ok (ps.flatMap spelled) := by
  induction ps generalizing position with
  | nil => exact showParts_nil position
  | cons p ps ih =>
    cases p with
    | plain t =>
      simp only [List.map_cons, harden, showParts, ih, List.flatMap_cons, spelled]
      rfl
    | tag n body =>
      have hodd : (2 * n + 1) % 2 = 1 := by omega
      have hhalf : (2 * n + 1) / 2 = n := by omega
      simp only [List.map_cons, harden, showParts, hodd, if_true, hhalf, ih, List.flatMap_cons,
        spelled]
      rfl

theorem escape_eq_hardened {t : Text} (h : t.getLast? ≠ some '\\') : escape t = hardened t := by
  have hlast : (hardened t).getLast? ≠ some '\\' := by rwa [getLast?_hardened]
  refine if_neg ?_
  rw [Bool.and_eq_true, not_and_or]
  exact Or.inl fun heq => hlast (decide_eq_true_iff.mp heq)

/-- An escaped text can be shown whatever stands in it. -/
theorem shown_escape {t : Text} (h : t.getLast? ≠ some '\\') :
    shown (escape t) = .ok ((ofText t).flatMap spelled) := by
  rw [escape_eq_hardened h, shown_eq, ofText_hardened, showParts_map_harden]

/-- Nothing of the text is lost if it is shown with its tags as they are. -/
structure IsLiteral (t : Text) : Prop where
  slashes : IsSlashFree t
  codes : Emoji.IsCodeFree t
  controls : IsControlFree t

instance (t : Text) : Decidable (IsLiteral t) :=
  decidable_of_iff' (IsSlashFree t ∧ Emoji.IsCodeFree t ∧ IsControlFree t)
    ⟨fun h => ⟨h.slashes, h.codes, h.controls⟩, fun h => ⟨h.1, h.2.1, h.2.2⟩⟩

theorem IsLiteral.visible_eq_self {t p : Text} (h : IsLiteral t) (hp : p <:+: t) :
    visible p = p :=
  Styled.visible_eq_self (h.codes.of_isInfix hp) fun c hc => h.controls c (hp.subset hc)

/-- A text without tags is shown as it is. -/
theorem IsLiteral.shown_eq_self {t : Text} (h : IsLiteral t) (hfree : IsTagFree t) :
    shown t = .ok t := by
  have hslashes : dropEscapes t = t := by
    refine dropEscapes_eq_self ?_
    rintro ⟨before, inner, rfl⟩
    rw [List.append_assoc] at h hfree
    exact h.slashes inner (List.suffix_append before _)
      (hfree inner ⟨before ++ ['\\'], List.append_assoc ..⟩)
  rw [shown_of_isTagFree hfree, hslashes, h.visible_eq_self List.infix_rfl]

/-- An escaped text is shown as the text. -/
theorem IsLiteral.shown_escape {t : Text} (h : IsLiteral t) (hlast : t.getLast? ≠ some '\\') :
    shown (escape t) = .ok t := by
  have hspelled : (ofText t).flatMap spelled = (ofText t).flatMap written := by
    refine List.flatMap_congr fun p hp => ?_
    cases p with
    | plain p =>
      have hwithin : p <:+: t := written_isInfix hp
      rw [spelled, dropEscapes_of_mem h.slashes hp, h.visible_eq_self hwithin, written]
    | tag n body =>
      have hwithin : brackets body <:+: t :=
        (List.suffix_append _ _).isInfix.trans (written_isInfix hp)
      rw [spelled, h.visible_eq_self hwithin, written]
  rw [Styled.shown_escape hlast, hspelled, flatMap_written]

/-! ## Tags that are obeyed -/

variable {w t : Text}

/-- The name of a tag without an equals sign is all of it. -/
theorem takeWhile_name (h : '=' ∉ w) : w.takeWhile (· != '=') = w := by
  rw [List.takeWhile_eq_self_iff]
  rintro c hc
  rw [bne_iff_ne]
  rintro rfl
  exact h hc

/-- A word opens a style of its name. -/
theorem apply_opened (hw : Style.IsWord w) (hslash : w.head? ≠ some '/') (hequals : '=' ∉ w)
    (position : Nat) : Tags.apply {} position w = .ok { open_ := [⟨w, none⟩] } := by
  have hrest : w.dropWhile (· != '=') = [] := by
    rw [List.dropWhile_eq_nil_iff, ← List.takeWhile_eq_self_iff, takeWhile_name hequals]
  rw [Tags.apply, takeWhile_name hequals]
  split
  · exact absurd rfl hslash
  · simp only [hw.normalName?_eq, hrest, List.tail?_nil]

/-- A word in brackets in front of a text without tags is not shown. -/
theorem shown_opened (hw : Style.IsWord w) (hbody : IsBody w) (hslash : w.head? ≠ some '/')
    (hequals : '=' ∉ w) (ht : IsTagFree t) (hne : t ≠ []) :
    shown (brackets w ++ t) = .ok (visible (dropEscapes t)) := by
  have hreadable : Tags.areReadable { open_ := [⟨w, none⟩] } = true := by
    simp only [Tags.areReadable, OpenTag.style, List.map_cons, List.map_nil, List.append_nil,
      List.all_cons, List.all_nil, hw.normalName?_eq, Option.isSome_some, Bool.and_self]
  have hparts : ofText (brackets w ++ t) = [tag 0 w, plain t] := by
    rw [← ofText_of_isTagFree ht hne]
    exact ofText_written 0 hbody t
  rw [shown_eq, hparts]
  simp only [showParts, Nat.zero_mod, Nat.zero_ne_one, if_false, apply_opened hw hslash hequals,
    hreadable, if_true, bind, Except.bind, pure, Except.pure, Nat.zero_div, backslashes,
    List.replicate_zero, List.nil_append, List.append_nil]

/-- A text that starts with a word behind a slash in brackets cannot be shown. -/
theorem shown_closed (hw : Style.IsWord w) (hinner : w.all isInner) (hequals : '=' ∉ w) :
    shown (brackets ('/' :: w) ++ t) = .error (.unmatched ('/' :: w) 0) := by
  have happly : Tags.apply {} 0 ('/' :: w) = .error (.unmatched ('/' :: w) 0) := by
    have hname : ('/' :: w).takeWhile (· != '=') = '/' :: w :=
      takeWhile_name fun h => hequals ((List.mem_cons.mp h).resolve_left (by decide))
    have hne : w.isEmpty = false := by
      cases w with
      | nil => cases hw.words
      | cons => rfl
    rw [Tags.apply, hname]
    simp only [hw.strip, hne, Bool.false_eq_true, if_false, hw.normalName?_eq, List.find?_nil]
  rw [shown_eq, show brackets ('/' :: w) = (tag 0 ('/' :: w)).written from rfl,
    ofText_written 0 ⟨'/', w, rfl, rfl, hinner⟩]
  simp only [showParts, Nat.zero_mod, Nat.zero_ne_one, if_false, Nat.add_zero, happly, bind,
    Except.bind]

end Styled

end SmartQuotes.Console
