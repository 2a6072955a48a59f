import Sexpr.Proofs.Files.Growth
import Sexpr.Proofs.Program.Agreement
import Sexpr.Proofs.Text.Encoding
import Sexpr.Proofs.Token.LineEnds
import Sexpr.Source

/-!
Programs in files. A file holds the bytes of a text, and the text that comes out of it has line
feeds for all its line ends. Between the tokens of a program that makes no difference: what is read
from the file is what the text itself says.
-/

namespace Sexpr

open Grammar

/-- Faults that differ in their places at most are reported with the same words. -/
theorem SyntaxFault.words_of_unplaced_eq {fault other : SyntaxFault}
    (h : fault.unplaced = other.unplaced) :
    fault.expected? = other.expected? ∧ fault.found? = other.found? := by
  have hexpected (fault : SyntaxFault) : fault.unplaced.expected? = fault.expected? := by
    cases fault <;> rfl
  have hfound (fault : SyntaxFault) : fault.unplaced.found? = fault.found? := by
    cases fault with
    | notLiteral literal found offset => cases found <;> rfl
    | _ => rfl
  rw [← hexpected fault, ← hfound fault, h, hexpected, hfound]
  exact ⟨rfl, rfl⟩

theorem Grammar.parse_rejected_of_contents {strict : Bool} {tokens tokens' : List Token}
    (h : tokens.map Token.content = tokens'.map Token.content) {fault : SyntaxFault}
    (hparse : parse strict tokens = .error (.rejected fault)) :
    ∃ other, parse strict tokens' = .error (.rejected other) ∧
      other.expected? = fault.expected? ∧ other.found? = fault.found? := by
  have halike := parseWithin_unplaced h nestingLimit strict
  rw [← parse, ← parse, hparse] at halike
  cases hother : parse strict tokens' with
  | ok tree =>
      rw [hother] at halike
      cases halike
  | error cause =>
      rw [hother] at halike
      have hunplaced : ParseFault.unplaced (.rejected fault) = cause.unplaced :=
        Except.error.inj halike
      cases cause with
      | misplaced cause => cases hunplaced
      | rejected other =>
          have hwords := SyntaxFault.words_of_unplaced_eq (ParseFault.rejected.inj hunplaced)
          exact ⟨other, rfl, hwords.1.symm, hwords.2.symm⟩

theorem Source.decode_toUTF8 (text : String) :
    Source.decode text.toUTF8.toList = .ok (String.ofList (Text.unifyLineEnds text.toList)) := by
  rw [Source.decode, Text.Utf8.decode_toUTF8]
  rfl

namespace Program

theorem read_of_tokens {text : String} {tokens : List Token} (h : tokenize text = .ok tokens)
    (strict : Bool) :
    (read strict text).2 = (parse strict tokens).mapError .parsing := by
  rw [read_eq_ofText, ofText_of_tokens (tokenize_eq_ok_iff.mp h)]
  cases parse strict tokens <;> rfl

variable {host : Host} {path : Path} {text : String}

/-- The tree of a file is that of its text with line feeds for line ends. -/
theorem ofFile_eq_read
    (hfile : host.files.read host.current path = .ok text.toUTF8.toList)
    (strict : Bool) :
    (Program.ofFile strict host path).2 =
      (read strict (String.ofList (Text.unifyLineEnds text.toList))).2.mapError .reading := by
  unfold Program.ofFile Source.ofFile
  rw [FileTree.isFile_of_read hfile]
  simp only [hfile, Source.decode_toUTF8]

/-- The line ends of a file are no part of its program. The file of a text in UTF-8 is read as the
text is, be its lines ended by line feeds, returns or both, as long as no return stands in a string:
as the same tree, or with a fault that names the same words. -/
theorem ofFile_line_ends
    (hfile : host.files.read host.current path = .ok text.toUTF8.toList)
    {tokens : List Token} (htokens : tokenize text = .ok tokens)
    (hstrings : ∀ token ∈ tokens, token.kind = .lexical .string → '\r' ∉ token.text.toList)
    (strict : Bool) :
    match (read strict text).2 with
    | .ok tree => (Program.ofFile strict host path).2 = .ok tree
    | .error (.parsing (.rejected fault)) =>
        ∃ other, (Program.ofFile strict host path).2 =
            .error (.reading (.parsing (.rejected other))) ∧
          other.expected? = fault.expected? ∧ other.found? = fault.found?
    | .error _ => False := by
  have lexing := tokenize_eq_ok_iff.mp htokens
  obtain ⟨unified, lexing', hcontents⟩ := lexing.unifyLineEnds rfl hstrings 0
  have hunified : tokenize (String.ofList (Text.unifyLineEnds text.toList)) = .ok unified := by
    rw [tokenize_eq_ok_iff, String.toList_ofList]
    exact lexing'
  rw [ofFile_eq_read hfile, read_of_tokens hunified, read_of_tokens htokens]
  cases hparse : parse strict tokens with
  | ok tree =>
      rw [show parse strict unified = .ok tree from
        parseWithin_ok_of_contents hcontents.symm hparse]
      rfl
  | error cause =>
      cases cause with
      | misplaced cause => exact parse_ne_misplaced lexing.isLexical cause hparse
      | rejected fault =>
          obtain ⟨other, hother, hwords⟩ := parse_rejected_of_contents hcontents.symm hparse
          rw [hother]
          exact ⟨other, rfl, hwords⟩

/-- A text whose lines end in three ways and whose last parenthesis closes nothing. -/
theorem ofFile_line_ends_unopened :
    let text := "(a\r\n\"x\ny\"\r)\r)"
    let host := Host.mk ⟨[(["p"], .file text.toUTF8.toList)], []⟩ [] ⟨.slash, ["c"]⟩ "" .plain
    ∃ other, (Program.ofFile true host ⟨.none, ["p"]⟩).2 =
        .error (.reading (.parsing (.rejected other))) ∧
      other.expected? = none ∧ other.found? = some (Text.quoted ")") := by
  intro text host
  have hentry : FileTree.IsEntryName "p" := by decide
  have hopen : host.files.denial? [] .search = none := ite_self none
  have hfile : host.files.read host.current ⟨.none, ["p"]⟩ = .ok text.toUTF8.toList := by
    refine FileTree.read_eq_ok_iff.mpr ⟨["p"], ?_, ite_self none⟩
    rw [FileTree.locate, if_neg (by decide)]
    exact (hentry.isLookedUp []).walk_file hopen rfl
  let tokens : List Token := [⟨.lexical .literal, "(", 0⟩, ⟨.lexical .id, "a", 1⟩,
    ⟨.lexical .string, "\"x\ny\"", 4⟩, ⟨.lexical .literal, ")", 10⟩, ⟨.lexical .literal, ")", 12⟩]
  have htokens : tokenize text = .ok tokens := by
    rw [tokenize_eq_ok_iff, show text.toList =
      ['(', 'a', '\r', '\n', '"', 'x', '\n', 'y', '"', '\r', ')', '\r', ')'] by simp [text]]
    refine @Lexing.cut _ _ ⟨.literal, ['(']⟩ _ _ rfl ?_
    refine @Lexing.cut _ _ ⟨.id, ['a']⟩ _ _ rfl (.blank rfl (.blank rfl ?_))
    refine @Lexing.cut _ _ ⟨.string, ['"', 'x', '\n', 'y', '"']⟩ _ _ rfl (.blank rfl ?_)
    refine @Lexing.cut _ _ ⟨.literal, [')']⟩ _ _ rfl (.blank rfl ?_)
    exact @Lexing.cut _ _ ⟨.literal, [')']⟩ _ _ rfl .finished
  have hparse : parse true tokens = .error (.rejected (.notAtom ")" 12)) := by
    have hverdict : verdict nestingLimit true 0 tokens =
        .notAtom ⟨.lexical .literal, ")", 12⟩ := by decide
    have houtcome := @parseWithin_of_fault? nestingLimit true tokens (by decide)
    rw [hverdict] at houtcome
    exact houtcome
  have h := ofFile_line_ends hfile htokens (by decide) true
  rw [read_of_tokens htokens, hparse] at h
  exact h

end Program

end Sexpr
