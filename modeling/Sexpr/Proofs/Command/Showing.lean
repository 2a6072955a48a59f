import Sexpr.Command.Run
import Sexpr.Proofs.Program.Agreement

/-!
What the commands write that show a source. For a source that can be read, the ending and the output
of each command are given here from the text alone: from its tokens, from its tree, and from what
writing them meets, be it the width of a line or the drawing of a table.
-/

namespace Sexpr

def Event.output? : Event → Option String
  | .output text => some text
  | _ => none

def written (events : List Event) : String :=
  String.join (events.filterMap Event.output?)

theorem Transcript.output_eq (transcript : Transcript) :
    transcript.output = written transcript.events := rfl

@[simp] theorem written_append (events more : List Event) :
    written (events ++ more) = written events ++ written more := by
  rw [written, List.filterMap_append, String.join_append]
  rfl

@[simp] theorem written_nil : written [] = "" := rfl

@[simp] theorem written_output (text : String) (events : List Event) :
    written (.output text :: events) = text ++ written events := by
  have hadds : (Event.output text).output? = some text := rfl
  rw [written, List.filterMap_cons_some hadds, String.join_cons]
  rfl

@[simp] theorem written_record (entry : Record) (events : List Event) :
    written (.record entry :: events) = written events := rfl

@[simp] theorem written_records (records : List Record) : written (records.map .record) = "" := by
  induction records with
  | nil => rfl
  | cons entry records ih => rw [List.map_cons, written_record, ih]

@[simp] theorem written_warnings (unknown : List UnknownKey) :
    written (unknown.map .warning) = "" := by
  induction unknown with
  | nil => rfl
  | cons key unknown ih => exact ih

namespace Command

def ruleLine (stroke : Char) : String :=
  String.ofList (List.replicate 50 stroke) ++ "\n"

/-- A listing under its heading, with a rule before it and behind it. -/
def block (heading listing : String) : String :=
  heading ++ "\n" ++ ruleLine '-' ++ listing ++ ruleLine '-'

def opening (settings : Settings) (quiet : Bool) (text : String) : String :=
  ruleLine '=' ++
    if quiet || settings.quiet then "" else "Input: " ++ text ++ "\n" ++ ruleLine '-'

def failureLine : String := "Threw an exception on invalid input.\n"

@[simp] theorem written_outputLine (line : String) (events : List Event) :
    written (outputLine line :: events) = line ++ "\n" ++ written events :=
  written_output (line ++ "\n") events

@[simp] theorem written_rule (stroke : Char) (events : List Event) :
    written (rule stroke :: events) = ruleLine stroke ++ written events :=
  written_outputLine (String.ofList (List.replicate 50 stroke)) events

theorem written_checkFailure (before : List Event) (message : String) :
    written (checkFailure before message).events = written before ++ failureLine := by
  rw [checkFailure, written_append, written_record, written_outputLine, written_nil,
    String.append_empty]
  rfl

section Check

variable {limits : Limits} {settings : Settings} {text : String} {tokens : List Token} {tree : Tree}

def tokenBlock (settings : Settings) (noTokens : Bool) (listing : String) : String :=
  if settings.showTokens && !noTokens then block "Tokens" listing else ""

theorem checkText_of_lexing {fault : LexFault} (h : tokenize text = .error fault)
    (quiet noTokens : Bool) :
    (checkText limits settings quiet noTokens text).ending = .exit 1 ∧
      written (checkText limits settings quiet noTokens text).events =
        opening settings quiet text ++ failureLine := by
  simp only [checkText, h]
  refine ⟨rfl, ?_⟩
  rw [written_checkFailure, opening]
  split <;> simp [String.append_assoc]

theorem checkText_of_parsing {fault : ParseFault} (h : tokenize text = .ok tokens)
    (hparse : Grammar.parse settings.strict tokens = .error fault) (quiet noTokens : Bool) :
    (checkText limits settings quiet noTokens text).ending = .exit 1 ∧
      written (checkText limits settings quiet noTokens text).events =
        opening settings quiet text ++ tokenBlock settings noTokens (tokenLines tokens) ++
          failureLine := by
  simp only [checkText, h, hparse]
  refine ⟨rfl, ?_⟩
  rw [written_checkFailure, opening, tokenBlock]
  split <;> split <;> simp [block, String.append_assoc]

theorem checkText_of_obstacle {cause : Breakdown} (h : tokenize text = .ok tokens)
    (hparse : Grammar.parse settings.strict tokens = .ok tree)
    (hwide : Tree.listingObstacle? limits "" settings.kindWidth = some cause)
    (quiet noTokens : Bool) :
    (checkText limits settings quiet noTokens text).ending = .broken cause := by
  simp only [checkText, h, hparse, Tree.writeListing, hwide]

theorem checkText_of_tree (h : tokenize text = .ok tokens)
    (hparse : Grammar.parse settings.strict tokens = .ok tree)
    (hwide : Tree.listingObstacle? limits "" settings.kindWidth = none) (quiet noTokens : Bool) :
    (checkText limits settings quiet noTokens text).ending = .exit 0 ∧
      written (checkText limits settings quiet noTokens text).events =
        opening settings quiet text ++ tokenBlock settings noTokens (tokenLines tokens) ++
          block "Parse Tree" (tree.listing "" settings.kindWidth ++ "\n") := by
  simp only [checkText, h, hparse, Tree.writeListing, hwide, true_and]
  rw [opening, tokenBlock]
  split <;> split <;> simp [block, String.append_assoc]

/-- `check` ends well just where the text is a program whose listing can be written. -/
theorem checkText_exits (limits : Limits) (settings : Settings) (quiet noTokens : Bool)
    (text : String) :
    (checkText limits settings quiet noTokens text).ending = .exit 0 ↔
      (Program.ofText settings.strict text).isOk = true ∧
        Tree.listingObstacle? limits "" settings.kindWidth = none := by
  unfold Program.ofText
  cases htokens : tokenize text with
  | error fault =>
      rw [(checkText_of_lexing htokens quiet noTokens).1]
      exact iff_of_false (by decide) fun h => Bool.false_ne_true h.1
  | ok tokens =>
      simp only
      cases hparse : Grammar.parse settings.strict tokens with
      | error fault =>
          rw [(checkText_of_parsing htokens hparse quiet noTokens).1]
          exact iff_of_false (by decide) fun h => Bool.false_ne_true h.1
      | ok tree =>
          cases hwide : Tree.listingObstacle? limits "" settings.kindWidth with
          | some cause =>
              rw [checkText_of_obstacle htokens hparse hwide quiet noTokens]
              simp
          | none =>
              exact iff_of_true (checkText_of_tree htokens hparse hwide quiet noTokens).1
                ⟨rfl, rfl⟩

end Check

section Source

variable {host : Host} {settings : Settings} {file text : String}

theorem exists_records (hsource : (readSource host file).2 = .ok text) :
    ∃ records, readSource host file = (records, .ok text) :=
  ⟨_, Prod.ext rfl hsource⟩

theorem check_of_source (hsource : (readSource host file).2 = .ok text) (settings : Settings)
    (quiet noTokens : Bool) :
    (check host settings file quiet noTokens).ending =
        (checkText host.platform.limits settings quiet noTokens text).ending ∧
      written (check host settings file quiet noTokens).events =
        written (checkText host.platform.limits settings quiet noTokens text).events := by
  obtain ⟨records, hread⟩ := exists_records hsource
  simp [check, hread]

theorem tokens_of_ok {found : List Token} (hsource : (readSource host file).2 = .ok text)
    (h : tokenize text = .ok found) (settings : Settings) (requested : Option String) :
    match formatTokens host.platform (formatFor .tokens requested settings.format).1 found with
    | .ok document => (tokens host settings file requested).ending = .exit 0 ∧
        written (tokens host settings file requested).events = document
    | .error cause => (tokens host settings file requested).ending = .broken cause := by
  obtain ⟨records, hread⟩ := exists_records hsource
  simp only [tokens, hread, h]
  cases formatTokens host.platform (formatFor .tokens requested settings.format).1 found with
  | ok document => simp
  | error cause => rfl

theorem tokens_of_error {fault : LexFault} (hsource : (readSource host file).2 = .ok text)
    (h : tokenize text = .error fault) (settings : Settings) (requested : Option String) :
    (tokens host settings file requested).ending = .exit 1 := by
  obtain ⟨records, hread⟩ := exists_records hsource
  simp [tokens, hread, h, failure]

/-- Only as a table tokens may fail to be written. -/
theorem formatTokens_isOk_iff (platform : Platform) (format : String) (found : List Token) :
    (formatTokens platform format found).isOk = true ↔
      (format = "table" → (platform.drawTable (tokenTable found)).isOk = true) := by
  unfold formatTokens
  by_cases hjson : format = "json"
  · subst hjson
    rw [if_pos rfl]
    exact iff_of_true rfl nofun
  · rw [if_neg hjson]
    by_cases htable : format = "table"
    · rw [if_pos htable]
      exact ⟨fun hdrawn _ => hdrawn, fun hdrawn => hdrawn htable⟩
    · rw [if_neg htable]
      exact iff_of_true rfl fun h => absurd h htable

/-- `tokens` ends well just where the text is cut into tokens that can be written in its format. -/
theorem tokens_exits (hsource : (readSource host file).2 = .ok text) (settings : Settings)
    (requested : Option String) :
    (tokens host settings file requested).ending = .exit 0 ↔
      ∃ found, tokenize text = .ok found ∧
        ((formatFor .tokens requested settings.format).1 = "table" →
          (host.platform.drawTable (tokenTable found)).isOk = true) := by
  cases h : tokenize text with
  | error fault =>
      rw [tokens_of_error hsource h]
      exact iff_of_false (by decide) nofun
  | ok found =>
      have htokens := tokens_of_ok hsource h settings requested
      simp only [Except.ok.injEq, exists_eq_left', ← formatTokens_isOk_iff]
      cases hformat :
          formatTokens host.platform (formatFor .tokens requested settings.format).1 found with
      | ok document =>
          rw [hformat] at htokens
          exact iff_of_true htokens.1 rfl
      | error cause =>
          rw [hformat] at htokens
          rw [show (tokens host settings file requested).ending = .broken cause from htokens]
          exact iff_of_false (by simp) Bool.false_ne_true

/-- A source that can be read as a text is read as the tree of that text, from wherever it comes. -/
theorem readTree_of_source (hsource : (readSource host file).2 = .ok text) (strict : Bool) :
    (readTree host strict file).2 =
      ((Program.ofText strict text).map Program.tree).mapError .reading := by
  rw [← Program.read_eq_ofText]
  unfold readSource at hsource
  unfold readTree
  split at hsource
  case isTrue hinput =>
    cases hsource
    rw [if_pos hinput]
  case isFalse hinput =>
    rw [if_neg hinput]
    unfold Program.ofFile
    cases hread : Source.ofFile host (.ofText file) with
    | mk records result =>
        rw [hread] at hsource
        cases hsource
        rfl

theorem tree_of_error {fault : ReadFault} (hsource : (readSource host file).2 = .ok text)
    (h : Program.ofText settings.strict text = .error fault) (requested : Option String) :
    (tree host settings file requested).ending = .exit 1 := by
  have hread := readTree_of_source hsource settings.strict
  rw [h] at hread
  unfold tree
  cases hresult : readTree host settings.strict file with
  | mk records result =>
      rw [hresult] at hread
      cases hread
      cases fault with
      | lexing cause => rfl
      | parsing cause => cases cause <;> rfl

theorem tree_of_ok {program : Program} (hsource : (readSource host file).2 = .ok text)
    (h : Program.ofText settings.strict text = .ok program) (requested : Option String) :
    match formatTree host.platform.limits (formatFor .tree requested settings.format).1
        settings.kindWidth program.tree with
    | .ok document => (tree host settings file requested).ending = .exit 0 ∧
        written (tree host settings file requested).events = document
    | .error cause => (tree host settings file requested).ending = .broken cause := by
  have hread := readTree_of_source hsource settings.strict
  rw [h] at hread
  unfold tree
  cases hresult : readTree host settings.strict file with
  | mk records result =>
      rw [hresult] at hread
      cases hread
      simp only
      cases formatTree host.platform.limits (formatFor .tree requested settings.format).1
          settings.kindWidth program.tree with
      | ok document => simp
      | error cause => rfl

/-- What writing a tree in a format breaks down at, if at anything: as JSON the indentation of its
innermost nodes, else the width of the listing's column. -/
def treeObstacle? (limits : Limits) (format : String) (column : Int) (tree : Tree) :
    Option Breakdown :=
  if format = "json" then tree.documentObstacle? limits 2
  else Tree.listingObstacle? limits "" column

theorem formatTree_isOk_iff {limits : Limits} {tree : Tree} (hbranch : tree.isLeaf = false)
    (format : String) (column : Int) :
    (formatTree limits format column tree).isOk = true ↔
      treeObstacle? limits format column tree = none := by
  unfold formatTree treeObstacle? Tree.writeListing Tree.writeDocument
  split
  · cases tree.documentObstacle? limits 2 <;>
      simp [Except.isOk, Except.toBool, Except.map, hbranch]
  · cases Tree.listingObstacle? limits "" column <;> simp [Except.isOk, Except.toBool, Except.map]

/-- The tree of a program is a branch. -/
theorem isLeaf_of_ofText {strict : Bool} {program : Program}
    (h : Program.ofText strict text = .ok program) : program.tree.isLeaf = false := by
  obtain ⟨trees, htree, -⟩ := Grammar.parseWithin_ok_iff.mp (Program.ofText_eq_ok h).2
  rw [htree]
  rfl

/-- `tree` ends well just where the text is a program that can be written in its format. -/
theorem tree_exits (hsource : (readSource host file).2 = .ok text) (settings : Settings)
    (requested : Option String) :
    (tree host settings file requested).ending = .exit 0 ↔
      ∃ program, Program.ofText settings.strict text = .ok program ∧
        treeObstacle? host.platform.limits (formatFor .tree requested settings.format).1
          settings.kindWidth program.tree = none := by
  cases h : Program.ofText settings.strict text with
  | error fault =>
      rw [tree_of_error hsource h]
      exact iff_of_false (by decide) nofun
  | ok program =>
      have htree := tree_of_ok hsource h requested
      simp only [Except.ok.injEq, exists_eq_left', ← formatTree_isOk_iff (isLeaf_of_ofText h)]
      cases hformat : formatTree host.platform.limits (formatFor .tree requested settings.format).1
          settings.kindWidth program.tree with
      | ok document =>
          rw [hformat] at htree
          exact iff_of_true htree.1 rfl
      | error cause =>
          rw [hformat] at htree
          rw [show (tree host settings file requested).ending = .broken cause from htree]
          exact iff_of_false (by simp) Bool.false_ne_true

end Source

end Command

end Sexpr
