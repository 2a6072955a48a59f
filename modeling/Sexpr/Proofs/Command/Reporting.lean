import Sexpr.Proofs.Command.Agreement
import Sexpr.Proofs.Settings.Faults

/-!
Runs without settings. No command does anything before the settings are loaded. If they do not load,
the fault is all that is written and the run ends with the exit code 1, unless loading came to a
file that it breaks down at: then nothing is written, and there is no exit code.
-/

namespace Sexpr

section Transcripts

variable (unknown : List UnknownKey) (ending : Ending) (files : FileTree)

/-- What was warned about is written to neither stream. -/
theorem Transcript.complaints_warnings (outlet : Option (Severity × Layout)) (events : List Event) :
    complaints outlet ⟨unknown.map .warning ++ events, ending, files⟩ =
      complaints outlet ⟨events, ending, files⟩ := by
  induction unknown with
  | nil => rfl
  | cons key unknown ih => exact ih

theorem Transcript.warnings_append (events : List Event) :
    warnings ⟨unknown.map .warning ++ events, ending, files⟩ =
      unknown ++ warnings ⟨events, ending, files⟩ := by
  induction unknown with
  | nil => rfl
  | cons key unknown ih => exact congrArg (key :: ·) ih

end Transcripts

namespace Command

section Runs

variable {host : Host} {arguments : List String} {lenient : Bool} {task : Task}

theorem run_of_config (hasks : Asks host arguments lenient task) {fault : ConfigFault}
    (hload : (host.load Host.here).result = .error (.config fault)) :
    run host arguments = ⟨.exit 1, "", "Error: " ++ fault.report.render ++ "\n",
      (host.load Host.here).unknown, host.files⟩ := by
  obtain ⟨verbose, harguments⟩ := hasks
  simp only [run, harguments, performLoaded, hload, Run.ofTranscript, Transcript.output_eq,
    written_append, written_warnings, Transcript.complaints_warnings, Transcript.warnings_append]
  congr 1
  exact List.append_nil _

theorem run_of_broken (hasks : Asks host arguments lenient task) {cause : Breakdown}
    (hload : (host.load Host.here).result = .error (.broken cause)) :
    run host arguments =
      ⟨.broken cause, "", "", (host.load Host.here).unknown, host.files⟩ := by
  obtain ⟨verbose, harguments⟩ := hasks
  have hcomplaints := Transcript.complaints_warnings (host.load Host.here).unknown (.broken cause)
    host.files none []
  have hwarnings := Transcript.warnings_append (host.load Host.here).unknown (.broken cause)
    host.files []
  rw [List.append_nil] at hcomplaints hwarnings
  simp only [run, harguments, performLoaded, hload, Run.ofTranscript, Transcript.output_eq,
    written_warnings, hcomplaints, hwarnings]
  congr 1
  exact List.append_nil _

end Runs

/-- Loading gives settings or a fault that is reported, unless it comes to a file that it breaks
down at. Accordingly a command whose settings do not load writes `Error: ` and the report, and ends
with the exit code 1; it leaves no report and no exit code only where loading breaks down. The files
stay as they are. -/
theorem run_unloadable (host : Host) :
    (∀ start, ¬host.Breaks start ↔ (∃ profile, (host.load start).result = .ok profile) ∨
      ∃ fault, (host.load start).result = .error (.config fault)) ∧
    ∀ arguments lenient task, Asks host arguments lenient task →
      (∀ profile, (host.load Host.here).result ≠ .ok profile) →
        (run host arguments).output = "" ∧ (run host arguments).files = host.files ∧
        (¬host.Breaks Host.here →
          ∃ fault, (host.load Host.here).result = .error (.config fault) ∧
            (run host arguments).ending = .exit 1 ∧
            (run host arguments).complaints = "Error: " ++ fault.report.render ++ "\n") ∧
        (host.Breaks Host.here →
          (run host arguments).complaints = "" ∧
            ∃ cause, (run host arguments).ending = .broken cause) := by
  have hloads : ∀ start, ¬host.Breaks start ↔
      (∃ profile, (host.load start).result = .ok profile) ∨
        ∃ fault, (host.load start).result = .error (.config fault) := by
    intro start
    rw [← Host.load_isBroken_iff, Loading.not_isBroken_iff]
  refine ⟨hloads, ?_⟩
  intro arguments lenient task hasks hfails
  by_cases hbreaks : host.Breaks Host.here
  · obtain ⟨cause, hload⟩ := (host.load_isBroken_iff Host.here).mpr hbreaks
    rw [run_of_broken hasks hload]
    refine ⟨rfl, rfl, ?_, ?_⟩
    · intro hholds
      exact absurd hbreaks hholds
    · intro _
      exact ⟨rfl, cause, rfl⟩
  · rcases (hloads Host.here).mp hbreaks with ⟨profile, hload⟩ | ⟨fault, hload⟩
    · exact absurd hload (hfails profile)
    · rw [run_of_config hasks hload]
      refine ⟨rfl, rfl, ?_, ?_⟩
      · intro _
        exact ⟨fault, hload, rfl, rfl⟩
      · intro hholds
        exact absurd hholds hbreaks

/-- An unfinished table header is reported. -/
theorem run_unloadable_unfinished :
    let host := besideSettings "[parser" "5"
    let fault : ConfigFault := .noToml ⟨.slash, [".lispish.toml"]⟩
      (Toml.explain "[parser".toList ⟨.noTableEnd, 0⟩)
    Asks host ["check", "p"] false (.check "p" false false) ∧
      (∀ profile, (host.load Host.here).result ≠ .ok profile) ∧ ¬host.Breaks Host.here ∧
      (run host ["check", "p"]).ending = .exit 1 ∧
      (run host ["check", "p"]).complaints = "Error: " ++ fault.report.render ++ "\n" := by
  intro host fault
  have hasks : Asks host ["check", "p"] false (.check "p" false false) :=
    ⟨false, by with_unfolding_all rfl⟩
  have huser : host.userSettings = .ok none := userSettings_beside _ _
  have hproject : host.projectSettings Host.here = .ok (some ⟨.slash, [".lispish.toml"]⟩) :=
    projectSettings_beside _ _
  have hbytes : host.files.read host.current ⟨.slash, [".lispish.toml"]⟩ =
      .ok "[parser".toUTF8.toList := read_beside _ _
  have hparse : Toml.parse host.platform.limits "[parser".toList = .error ⟨.noTableEnd, 0⟩ := by
    simp only [String.reduceToList]
    with_unfolding_all rfl
  have htable : Loading.readTable host.platform.limits host.files host.current
      ⟨.slash, [".lispish.toml"]⟩ =
      .error (.config fault) := by
    simp only [Loading.readTable, hbytes, Text.Utf8.decode_toUTF8, hparse]
    rfl
  have hload : (host.load Host.here).result = .error (.config fault) := by
    simp only [Host.load, huser, hproject, Loading.layerFound, Loading.andThen, Loading.layer,
      htable]
  have hfails : ∀ profile, (host.load Host.here).result ≠ .ok profile := by
    intro profile h
    rw [hload] at h
    cases h
  obtain ⟨hloads, hruns⟩ := run_unloadable host
  have hsound : ¬host.Breaks Host.here := (hloads Host.here).mpr (.inr ⟨fault, hload⟩)
  obtain ⟨-, -, hreports, -⟩ := hruns _ _ _ hasks hfails
  obtain ⟨found, hfound, hending, hcomplaints⟩ := hreports hsound
  rw [hload] at hfound
  cases hfound
  exact ⟨hasks, hfails, hsound, hending, hcomplaints⟩

/-- A settings file of one byte that starts no character: nothing is reported. -/
theorem run_undecodable :
    let host : Host := ⟨⟨[([".lispish.toml"], .file [0xff]), (["p"], .file [0x35])], []⟩, [],
      ⟨.slash, ["c"]⟩, "", .plain⟩
    (∀ profile, (host.load Host.here).result ≠ .ok profile) ∧
      (∀ fault, (host.load Host.here).result ≠ .error (.config fault)) ∧
      (run host ["check", "p"]).ending ≠ .exit 1 ∧ (run host ["check", "p"]).complaints = "" := by
  intro host
  have hasks : Asks host ["check", "p"] false (.check "p" false false) :=
    ⟨false, by with_unfolding_all rfl⟩
  have huser : host.userSettings = .ok none := userSettings_beside _ _
  have hproject : host.projectSettings Host.here = .ok (some ⟨.slash, [".lispish.toml"]⟩) :=
    projectSettings_beside _ _
  have hbytes : host.files.read host.current ⟨.slash, [".lispish.toml"]⟩ = .ok [0xff] :=
    read_beside _ _
  have hdecode : Text.Utf8.decode [0xff] = .error 0 := rfl
  have hload : (host.load Host.here).result = .error (.broken (.noText 0)) := by
    simp only [Host.load, huser, hproject, Loading.layerFound, Loading.andThen, Loading.layer,
      Loading.readTable, hbytes, hdecode]
  rw [run_of_broken hasks hload, hload]
  refine ⟨?_, ?_, ?_, rfl⟩
  · intro profile h
    cases h
  · intro fault h
    cases h
  · intro h
    cases h

end Command

end Sexpr
