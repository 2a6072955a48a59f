import Sexpr.Proofs.Command.Showing
import Sexpr.Proofs.Program.LineEnds
import Sexpr.Proofs.Settings.Precedence

/-!
Commands side by side. `check`, `tokens` and `tree` each find out for themselves whether a source is
a program; run under the same settings they all come to the answer that reading the text gives, and
what `check` shows of a program is what the other two write.
-/

namespace Sexpr

/-- The settings that a command works with: leniency overrides strictness, and all else stays. -/
def Settings.within (lenient : Bool) (settings : Settings) : Settings :=
  { settings with strict := settings.strict && !lenient }

theorem Settings.within_eq (lenient : Bool) (settings : Settings) :
    (if lenient then { settings with strict := false } else settings) =
      settings.within lenient := by
  cases lenient <;> simp [within]

namespace Command

def Asks (host : Host) (arguments : List String) (lenient : Bool) (task : Task) : Prop :=
  ∃ verbose, Invocation.ofArguments host.platform.dropsDashes arguments =
    .ok ⟨verbose, lenient, some task⟩

/-- Under settings that load, a run ends as its task does and writes what the task writes. -/
theorem run_of_asks {host : Host} {arguments : List String} {lenient : Bool} {task : Task}
    {profile : Profile} (hasks : Asks host arguments lenient task)
    (hload : (host.load Host.here).result = .ok profile) :
    (run host arguments).ending = (perform host (profile.settings.within lenient) task).ending ∧
      (run host arguments).output =
        written (perform host (profile.settings.within lenient) task).events := by
  obtain ⟨verbose, harguments⟩ := hasks
  simp only [run, harguments, performLoaded, hload, Run.ofTranscript, Transcript.after,
    Transcript.output_eq, written_append, written_warnings, written_record, written_nil,
    String.empty_append, Settings.within_eq, true_and]

section Runs

variable {host : Host} {profile : Profile} {file text : String} {lenient : Bool}
  {arguments : List String}

theorem run_tokens_exits (hload : (host.load Host.here).result = .ok profile)
    (hsource : (readSource host file).2 = .ok text) {format : Option String}
    (hasks : Asks host arguments lenient (.tokens file format)) :
    (run host arguments).ending = .exit 0 ↔
      ∃ found, tokenize text = .ok found ∧
        ((formatFor .tokens format profile.settings.format).1 = "table" →
          (host.platform.drawTable (tokenTable found)).isOk = true) := by
  rw [(run_of_asks hasks hload).1]
  exact tokens_exits hsource (profile.settings.within lenient) format

/-- What `tokens` writes as text is the listing of the tokens. -/
theorem run_tokens_output (hload : (host.load Host.here).result = .ok profile)
    (hsource : (readSource host file).2 = .ok text) {found : List Token}
    (h : tokenize text = .ok found)
    (hasks : Asks host arguments lenient (.tokens file (some "text"))) :
    (run host arguments).output = tokenLines found := by
  rw [(run_of_asks hasks hload).2]
  exact (tokens_of_ok hsource h _ (some "text")).2

theorem run_tree_exits (hload : (host.load Host.here).result = .ok profile)
    (hsource : (readSource host file).2 = .ok text) {format : Option String}
    (hasks : Asks host arguments lenient (.tree file format)) :
    (run host arguments).ending = .exit 0 ↔
      ∃ program, Program.ofText (profile.settings.strict && !lenient) text = .ok program ∧
        treeObstacle? host.platform.limits (formatFor .tree format profile.settings.format).1
          profile.settings.kindWidth program.tree = none := by
  rw [(run_of_asks hasks hload).1]
  exact tree_exits hsource (profile.settings.within lenient) format

/-- What `tree` writes as text is the listing of the tree. -/
theorem run_tree_output (hload : (host.load Host.here).result = .ok profile)
    (hsource : (readSource host file).2 = .ok text) {program : Program}
    (h : Program.ofText (profile.settings.within lenient).strict text = .ok program)
    (hwide : Tree.listingObstacle? host.platform.limits "" profile.settings.kindWidth = none)
    (hasks : Asks host arguments lenient (.tree file (some "text"))) :
    (run host arguments).output =
      program.tree.listing "" profile.settings.kindWidth ++ "\n" := by
  rw [(run_of_asks hasks hload).2]
  have hwide' : Tree.listingObstacle? host.platform.limits ""
      (profile.settings.within lenient).kindWidth = none := hwide
  have htree := tree_of_ok hsource h (some "text")
  simp only [formatTree, Tree.writeListing, hwide'] at htree
  exact htree.2

theorem run_check_of_source (hload : (host.load Host.here).result = .ok profile)
    (hsource : (readSource host file).2 = .ok text) {quiet noTokens : Bool}
    (hasks : Asks host arguments lenient (.check file quiet noTokens)) :
    (run host arguments).ending =
        (checkText host.platform.limits (profile.settings.within lenient) quiet noTokens
          text).ending ∧
      (run host arguments).output =
        written (checkText host.platform.limits (profile.settings.within lenient) quiet noTokens
          text).events := by
  obtain ⟨hending, houtput⟩ := run_of_asks hasks hload
  obtain ⟨hshown, hwritten⟩ :=
    check_of_source hsource (profile.settings.within lenient) quiet noTokens
  exact ⟨hending.trans hshown, houtput.trans hwritten⟩

end Runs

/-- A source with a settings file beside it, both by their bytes. -/
def beside (settings source : List UInt8) : Host :=
  ⟨⟨[([".lispish.toml"], .file settings), (["p"], .file source)], []⟩, [], ⟨.slash, ["c"]⟩, "",
    .plain⟩

section Beside

variable (settings source : List UInt8)

theorem searchable_beside : (beside settings source).files.denial? [] .search = none :=
  ite_self none

theorem userSettings_beside : (beside settings source).userSettings = .ok none :=
  Host.userSettings_absent <| FileTree.Reached.root.leadsTo_eq (by decide)
    (searchable_beside settings source) (by decide) (.free rfl)

theorem read_beside : (beside settings source).files.read [] (Search.preferredPath []) =
    .ok settings :=
  FileTree.read_eq_ok_iff.mpr ⟨_, FileTree.Reached.root.locate_eq (by decide)
    (searchable_beside settings source) (by decide) (.file rfl) .look, ite_self none⟩

theorem projectSettings_beside : (beside settings source).projectSettings Host.here =
    .ok (some (Search.preferredPath [])) :=
  Host.projectSettings_of_read (read_beside settings source)

end Beside

def besideSettings (settings source : String) : Host :=
  beside settings.toUTF8.toList source.toUTF8.toList

section BesideSettings

variable {settings source : String}

theorem readSource_besideSettings (h : '\r' ∉ source.toList) :
    (readSource (besideSettings settings source) "p").2 = .ok source := by
  have hpath : Path.ofText "p" = ⟨.none, ["p"]⟩ := by
    with_unfolding_all rfl
  have hname : FileTree.IsEntryName "p" := by decide
  have hread : (besideSettings settings source).files.read
      (besideSettings settings source).current (.ofText "p") = .ok source.toUTF8.toList := by
    refine FileTree.read_eq_ok_iff.mpr ⟨["p"], ?_, ite_self none⟩
    rw [hpath, FileTree.locate, if_neg (by decide)]
    exact (hname.isLookedUp []).walk_file (searchable_beside _ _) rfl
  have hplain : Text.unifyLineEnds source.toList = source.toList := by
    have happend := Text.unifyLineEnds_append h []
    rwa [Text.unifyLineEnds, List.append_nil] at happend
  rw [readSource, if_neg (by decide), Source.ofFile]
  simp only [FileTree.isFile_of_read hread, hread, Source.decode_toUTF8, hplain]
  rw [String.ofList_toList]

theorem load_besideSettings {table : Entries}
    (hparse : Toml.parse Platform.plain.limits settings.toList = .ok table)
    (hfits : Layer.Fits ⟨"/.lispish.toml", table⟩) :
    ((besideSettings settings source).load Host.here).result =
      .ok (Profile.lay .default ⟨"/.lispish.toml", table⟩) := by
  let host := besideSettings settings source
  have huser : host.userLayer = .ok none :=
    congrArg (Loading.layerOf _ _ _) (userSettings_beside _ _)
  have hread : host.files.read host.current (Search.preferredPath []) =
      .ok settings.toUTF8.toList := read_beside _ _
  have hproject := Host.projectLayer_of_text (projectSettings_beside _ _) hread hparse
  refine (Host.load_ok_iff host Host.here _).mpr ⟨none, _, huser, hproject, ?_, rfl⟩
  simp only [Option.toList_none, Option.toList_some, List.nil_append, List.forall_mem_singleton]
  exact hfits

end BesideSettings

/-- The commands agree with the reader and with one another, whatever the settings, the file and the
other options. `tokens` ends well just for a text that is cut into tokens, of which a table can be
drawn where one is asked for. `tree` and `check` end well just for a program, as far as lines can be
as wide as its listing or its document needs. What `check` shows is what `tokens` and `tree` write
as text: both for a program, the tokens alone where only the parse fails, and neither where the text
is not cut into tokens. -/
theorem run_agrees {host : Host} {profile : Profile} {file text : String}
    (hload : (host.load Host.here).result = .ok profile)
    (hsource : (readSource host file).2 = .ok text) (lenient : Bool) :
    let settings := profile.settings
    let limits := host.platform.limits
    let outcome := (Program.attempt (settings.strict && !lenient) text).2
    (∀ arguments format, Asks host arguments lenient (.tokens file format) →
      ((run host arguments).ending = .exit 0 ↔
        ∃ found, tokenize text = .ok found ∧
          ((formatFor .tokens format settings.format).1 = "table" →
            (host.platform.drawTable (tokenTable found)).isOk = true))) ∧
    (∀ arguments format, Asks host arguments lenient (.tree file format) →
      ((run host arguments).ending = .exit 0 ↔
        ∃ program, outcome = .ok program ∧
          treeObstacle? limits (formatFor .tree format settings.format).1 settings.kindWidth
            program.tree = none)) ∧
    ∀ arguments quiet noTokens, Asks host arguments lenient (.check file quiet noTokens) →
      ((run host arguments).ending = .exit 0 ↔
        outcome.isOk = true ∧ Tree.listingObstacle? limits "" settings.kindWidth = none) ∧
      ∀ tokensArguments treeArguments,
        Asks host tokensArguments lenient (.tokens file (some "text")) →
        Asks host treeArguments lenient (.tree file (some "text")) →
        let shown := (run host arguments).output
        let before := opening settings quiet text
        let tokensShown := tokenBlock settings noTokens (run host tokensArguments).output
        match outcome with
        | .ok _ => (run host arguments).ending = .exit 0 →
            shown = before ++ tokensShown ++ block "Parse Tree" (run host treeArguments).output
        | .error (.lexing _) =>
            (run host arguments).ending = .exit 1 ∧ shown = before ++ failureLine
        | .error (.parsing _) =>
            (run host arguments).ending = .exit 1 ∧
              shown = before ++ tokensShown ++ failureLine := by
  intro settings limits outcome
  have houtcome : outcome = Program.ofText (settings.strict && !lenient) text :=
    Program.attempt_eq_ofText _ _
  rw [houtcome]
  refine ⟨fun arguments format hasks => run_tokens_exits hload hsource hasks,
    fun arguments format hasks => run_tree_exits hload hsource hasks, ?_⟩
  intro arguments quiet noTokens hasks
  obtain ⟨hending, houtput⟩ := run_check_of_source hload hsource hasks
  have hexits := checkText_exits limits (settings.within lenient) quiet noTokens text
  rw [← hending] at hexits
  refine ⟨hexits, ?_⟩
  intro tokensArguments treeArguments htokens htree shown before tokensShown
  cases hread : Program.ofText (settings.strict && !lenient) text with
  | error fault =>
      cases fault with
      | lexing fault =>
          have hstuck := Program.ofText_eq_lexing_iff.mp hread
          obtain ⟨hexit, hwritten⟩ := checkText_of_lexing hstuck quiet noTokens
          exact ⟨hending.trans hexit, houtput.trans hwritten⟩
      | parsing fault =>
          obtain ⟨found, hfound, hparse⟩ : ∃ found, tokenize text = .ok found ∧
              Grammar.parse (settings.within lenient).strict found = .error fault :=
            Program.ofText_eq_parsing_iff.mp hread
          obtain ⟨hexit, hwritten⟩ := checkText_of_parsing hfound hparse quiet noTokens
          rw [← run_tokens_output hload hsource hfound htokens] at hwritten
          exact ⟨hending.trans hexit, houtput.trans hwritten⟩
  | ok program =>
      intro hzero
      have hwide := (hexits.mp hzero).2
      obtain ⟨lexing, hparse⟩ := Program.ofText_eq_ok hread
      have hfound := tokenize_eq_ok_iff.mpr lexing
      obtain ⟨-, hwritten⟩ := checkText_of_tree hfound hparse hwide quiet noTokens
      rw [← run_tokens_output hload hsource hfound htokens] at hwritten
      rw [run_tree_output hload hsource hread hwide htree]
      exact houtput.trans hwritten

/-- Under leniency a parenthesis that closes nothing is shown as part of the program. -/
theorem run_agrees_lenient :
    let host := besideSettings "[display]\nkind_width = 7" "5 )"
    ∃ profile, (host.load Host.here).result = .ok profile ∧
      (run host ["--lenient", "check", "p"]).ending = .exit 0 ∧
      (run host ["--lenient", "check", "p"]).output = opening profile.settings false "5 )" ++
        block "Tokens" (run host ["--lenient", "tokens", "--format=text", "p"]).output ++
        block "Parse Tree" (run host ["--lenient", "tree", "--format", "text", "p"]).output := by
  intro host
  have hparse : Toml.parse Platform.plain.limits "[display]\nkind_width = 7".toList =
      .ok [("display", .table [("kind_width", .int 7)])] := by
    simp only [String.reduceToList]
    with_unfolding_all rfl
  obtain ⟨profile, hload, hprofile⟩ : ∃ profile, (host.load Host.here).result = .ok profile ∧
      profile.settings = { Settings.default with kindWidth := 7 } :=
    ⟨_, load_besideSettings hparse (by decide), by with_unfolding_all rfl⟩
  have hsource : (readSource host "p").2 = .ok "5 )" := readSource_besideSettings (by simp)
  have hcheck : Asks host ["--lenient", "check", "p"] true (.check "p" false false) :=
    ⟨false, by with_unfolding_all rfl⟩
  have htokens : Asks host ["--lenient", "tokens", "--format=text", "p"] true
      (.tokens "p" (some "text")) := ⟨false, by with_unfolding_all rfl⟩
  have htree : Asks host ["--lenient", "tree", "--format", "text", "p"] true
      (.tree "p" (some "text")) := ⟨false, by with_unfolding_all rfl⟩
  have htokenized : tokenize "5 )" =
      .ok [⟨.lexical .int, "5", 0⟩, ⟨.lexical .literal, ")", 2⟩] := by
    with_unfolding_all rfl
  have hstrict : (profile.settings.strict && !true) = false := Bool.and_false _
  have h := (run_agrees hload hsource true).2.2 _ false false hcheck
  simp only [hstrict, Program.attempt_eq_ofText] at h
  have hread : (Program.ofText false "5 )").isOk = true :=
    Program.isOk_ofText htokenized (by decide)
  have hexit := h.1.mpr ⟨hread, by rw [hprofile]; decide⟩
  have hshown := h.2 _ _ htokens htree
  cases hprogram : Program.ofText false "5 )" with
  | error fault =>
      rw [hprogram] at hread
      cases hread
  | ok program =>
      rw [hprogram] at hshown
      have houtput := hshown hexit
      rw [tokenBlock, hprofile] at houtput
      exact ⟨profile, hload, hexit, by rw [hprofile]; exact houtput⟩

/-- Where the column of the listing is wider than any text, `check` fails on a program that `tree`
writes as JSON; and where a word is taken for markup that it is not, `tokens` fails to draw a table
of a text that it can be cut into. -/
theorem run_check_too_wide :
    (let host := besideSettings "[display]\nkind_width = 9223372036854775808" "5"
    ∃ profile, (host.load Host.here).result = .ok profile ∧ (readSource host "p").2 = .ok "5" ∧
      (Program.attempt profile.settings.strict "5").2.isOk = true ∧
      (run host ["check", "p"]).ending ≠ .exit 0 ∧
      (run host ["tree", "--format", "json", "p"]).ending = .exit 0) ∧
    (let host := besideSettings "" "[/x]"
    (∃ profile, (host.load Host.here).result = .ok profile) ∧
      (readSource host "p").2 = .ok "[/x]" ∧ (tokenize "[/x]").isOk = true ∧
      (run host ["tokens", "--format", "table", "p"]).ending ≠ .exit 0) := by
  constructor
  · intro host
    have hparse : Toml.parse Platform.plain.limits
        "[display]\nkind_width = 9223372036854775808".toList =
        .ok [("display", .table [("kind_width", .int 9223372036854775808)])] := by
      simp only [String.reduceToList]
      with_unfolding_all rfl
    obtain ⟨profile, hload, hprofile⟩ : ∃ profile, (host.load Host.here).result = .ok profile ∧
        profile.settings = { Settings.default with kindWidth := 9223372036854775808 } :=
      ⟨_, load_besideSettings hparse (by decide), by with_unfolding_all rfl⟩
    have hsource : (readSource host "p").2 = .ok "5" := readSource_besideSettings (by simp)
    have hcheck : Asks host ["check", "p"] false (.check "p" false false) :=
      ⟨false, by with_unfolding_all rfl⟩
    have htree : Asks host ["tree", "--format", "json", "p"] false (.tree "p" (some "json")) :=
      ⟨false, by with_unfolding_all rfl⟩
    let tokens : List Token := [⟨.lexical .int, "5", 0⟩]
    let number : Tree := .branch .program [Grammar.atomTree (.leaf .int "5")]
    have htokenized : tokenize "5" = .ok tokens := by with_unfolding_all rfl
    have hderives : Grammar.Derives .program number := by
      refine .program ?_
      rw [List.forall_mem_singleton]
      exact .word (.atom rfl)
    have hspells : Grammar.Spells tokens number.contents :=
      ⟨by simp [tokens, number, Grammar.atomTree, Token.content], by decide⟩
    have hread : Program.ofText profile.settings.strict "5" = .ok ⟨tokens, number⟩ := by
      have hparse : Grammar.parse profile.settings.strict tokens = .ok number :=
        hderives.parseWithin_ok (by decide) hspells _
      rw [Program.ofText_of_tokens (tokenize_eq_ok_iff.mp htokenized), hparse]
      rfl
    have hwide :
        Tree.listingObstacle? host.platform.limits "" profile.settings.kindWidth =
          some .tooWide := by
      rw [hprofile]
      decide
    refine ⟨profile, hload, hsource, ?_, ?_, ?_⟩
    · rw [Program.attempt_eq_ofText, hread]
      rfl
    · rw [(run_check_of_source hload hsource hcheck).1, Ne, checkText_exits, Settings.within, hwide]
      simp
    · refine (run_tree_exits hload hsource htree).mpr
        ⟨⟨tokens, number⟩, ?_, by with_unfolding_all rfl⟩
      rw [Bool.not_false, Bool.and_true, hread]
  · intro host
    have hparse : Toml.parse Platform.plain.limits "".toList = .ok [] := by
      simp only [String.reduceToList]
      with_unfolding_all rfl
    have hload := @load_besideSettings _ "[/x]" _ hparse (by decide)
    have hsource : (readSource host "p").2 = .ok "[/x]" := readSource_besideSettings (by simp)
    have htable : Asks host ["tokens", "--format", "table", "p"] false
        (.tokens "p" (some "table")) := ⟨false, by with_unfolding_all rfl⟩
    have htokenized : tokenize "[/x]" = .ok [⟨.lexical .id, "[/x]", 0⟩] := by with_unfolding_all rfl
    have hmarkup :
        (host.platform.drawTable (tokenTable [⟨.lexical .id, "[/x]", 0⟩])).isOk = false := by
      with_unfolding_all rfl
    refine ⟨⟨_, hload⟩, hsource, by rw [htokenized]; rfl, ?_⟩
    rw [Ne, run_tokens_exits hload hsource htable, htokenized]
    rintro ⟨found, hfound, hdrawn⟩
    cases hfound
    rw [hdrawn rfl] at hmarkup
    cases hmarkup

end Command

end Sexpr
