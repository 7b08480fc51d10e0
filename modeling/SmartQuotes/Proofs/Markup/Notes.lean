import SmartQuotes.Document
import SmartQuotes.Proofs.Outcome

/-!
# What the extraction notes

While the fragments of a document are extracted, only expressions and blocks that are skipped are
noted, all of them on the channel of the parsers. A script is extracted without a note.
-/

namespace SmartQuotes

/-- The note is on the channel of the parsers. -/
def Note.IsOnParsing (n : Note) : Prop := n.channel = "curly_quotes.parsers"

open Outcome

theorem Script.onlyNotes_extractExpression (document : Text) (start stop : Int) :
    (Script.extractExpression document start stop).OnlyNotes Note.IsOnParsing := by
  unfold Script.extractExpression
  simp only
  split
  · exact onlyNotes_value
  · exact nofun
  · split
    · exact onlyNotes_value
    · exact nofun
    · rintro _ (_ | ⟨_, _, ⟨⟩⟩)
      rfl

namespace Markup

/-! ## Templates -/

theorem onlyNotes_extractSegments (document : Text) (start stop : Int) (l : List Segment) :
    (extractSegments document start stop l).OnlyNotes Note.IsOnParsing := by
  induction l generalizing start with
  | nil => exact onlyNotes_value
  | cons s rest ih =>
    cases s with
    | prose t => exact onlyNotes_append onlyNotes_value (ih _)
    | embedded t => exact onlyNotes_append (Script.onlyNotes_extractExpression document _ _) (ih _)

theorem onlyNotes_extractAttribute (document : Text) (base : Int) (a : Attribute) :
    (extractAttribute document base a).OnlyNotes Note.IsOnParsing := by
  unfold extractAttribute
  simp only
  split
  · exact onlyNotes_value
  · exact onlyNotes_value
  · exact Script.onlyNotes_extractExpression document _ _
  · split
    · exact onlyNotes_value
    · exact Script.onlyNotes_extractExpression document _ _

theorem onlyNotes_extractTag (document : Text) (start : Int) (g : Tag) :
    (extractTag document start g).OnlyNotes Note.IsOnParsing := by
  unfold extractTag
  split
  · exact onlyNotes_value
  · refine onlyNotes_concat ?_
    rw [List.forall_mem_map]
    exact fun a _ => onlyNotes_extractAttribute document _ a

theorem onlyNotes_extractPieces (document : Text) (start stop : Int) (l : List Piece) :
    (extractPieces document start stop l).OnlyNotes Note.IsOnParsing := by
  induction l generalizing start with
  | nil => exact onlyNotes_value
  | cons p rest ih =>
    refine onlyNotes_append ?_ (ih _)
    cases p with
    | run t => exact onlyNotes_extractSegments document _ _ _
    | comment t => exact onlyNotes_value
    | tag g => exact onlyNotes_extractTag document _ g

/-! ## Components -/

theorem onlyNotes_extractBlock (document : Text) (b : Block) :
    (extractBlock document b).OnlyNotes Note.IsOnParsing := by
  have skipped : ∀ n : Note, n.IsOnParsing →
      (do Outcome.note [n]; return [] : Outcome (List Fragment)).OnlyNotes Note.IsOnParsing :=
    fun n hn => onlyNotes_bind (onlyNotes_note (List.forall_mem_singleton.mpr hn))
      fun _ _ => onlyNotes_value
  unfold extractBlock
  split
  · exact skipped _ rfl
  · split
    · split
      · exact onlyNotes_ofExcept
      · exact onlyNotes_extractPieces document _ _ _
    · split
      · exact skipped _ rfl
      · exact skipped _ rfl

theorem onlyNotes_extractBlocks (document : Text) (l : List Block) :
    (extractBlocks document l).OnlyNotes Note.IsOnParsing := by
  induction l with
  | nil => exact onlyNotes_value
  | cons b rest ih =>
    exact onlyNotes_bind (onlyNotes_extractBlock document b)
      fun _ _ => onlyNotes_bind ih fun _ _ => onlyNotes_value

theorem onlyNotes_extractComponent (document : Text) :
    (extractComponent document).OnlyNotes Note.IsOnParsing :=
  onlyNotes_bind onlyNotes_ofExcept fun blocks _ =>
    onlyNotes_bind (onlyNotes_extractBlocks document blocks) fun _ _ => onlyNotes_value

end Markup

/-- Everything that the extraction notes is on the channel of the parsers. -/
theorem Language.onlyNotes_extract (l : Language) (document : Text) :
    (l.extract document).OnlyNotes Note.IsOnParsing := by
  cases l with
  | script => exact onlyNotes_ofExcept
  | component => exact Markup.onlyNotes_extractComponent document

end SmartQuotes
