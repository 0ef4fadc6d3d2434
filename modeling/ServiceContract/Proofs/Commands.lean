import ServiceContract.Command.Run
import ServiceContract.Proofs.Store

/-!
# Commands agree

The commands work on the same generation and differ in what they do with it. Checking tells in
advance how generating ends, inspecting prints what generating writes, and a run that fails on
its schema changes nothing.

* `check_succeeds_iff`, `inspect_succeeds_iff`, `generate_succeeds_iff`: when runs succeed.
* `read_of_save`: what is saved is read.
* `commands_agree`: how the commands agree on every schema, settings and store.
-/

namespace ServiceContract.Command

open Files (IsFileName Store)

variable {c : Command} {g : Generation} {store store' : Store}

/-- A command with another action, on the same schema and with the same settings. -/
def doing (c : Command) (a : Action) : Command := { c with action := a }

/-- A run ends in success. -/
def Outcome.Succeeds (o : Outcome) : Prop := o.result = .ok true

/-- The folder can be created and the files written for whatever the schema gives. -/
def CanSave (c : Command) (g : Generation) (store : Store) : Prop :=
  ∀ made, c.generation store = .ok (.ok made) → (g.save store made.bundle).2 = .ok ()

/-! ## How runs end -/

section

variable {a : Action} {made : Bundle.Generation}

theorem run_of_error {t : Trouble} (h : c.generation store = .error t) :
    run (c.doing a) store = { result := .error t, store := store } := by
  unfold run
  rw [show (c.doing a).generation store = .error t from h]

theorem run_of_issues {issues : List Issue} (h : c.generation store = .ok (.error issues)) :
    run (c.doing a) store = refused store issues := by
  unfold run
  rw [show (c.doing a).generation store = .ok (.error issues) from h]

theorem run_of_made (h : c.generation store = .ok (.ok made)) :
    run (c.doing a) store = (c.doing a).act store made := by
  unfold run
  rw [show (c.doing a).generation store = .ok (.ok made) from h]

/-- What checking does with a generation. -/
theorem act_check : ∃ text, (c.doing .check).act store made =
    if made.isComplete then showing store text else refused store made.failures :=
  ⟨_, rfl⟩

/-- What generating does with a generation. -/
theorem act_generate : ∃ text, (c.doing (.generate g)).act store made =
    if made.isComplete || g.allowPartial then
      match g.save store made.bundle with
      | (store, .error t) => { result := .error t, store := store }
      | (store, .ok ()) => showing store text
    else refused store made.failures :=
  ⟨_, rfl⟩

theorem showing_succeeds (text : String) : (showing store text).Succeeds := rfl

theorem not_refused_succeeds (issues : List Issue) : ¬ (refused store issues).Succeeds := by
  unfold Outcome.Succeeds refused
  simp

/-- A run succeeds where there is a generation on which its action does. -/
theorem run_succeeds_iff :
    (run (c.doing a) store).Succeeds ↔
      ∃ made, c.generation store = .ok (.ok made) ∧ ((c.doing a).act store made).Succeeds := by
  rcases h : c.generation store with t | issues | made
  · rw [run_of_error h]
    simp [Outcome.Succeeds]
  · rw [run_of_issues h]
    simp [not_refused_succeeds]
  · rw [run_of_made h]
    simp

/-- A run whose action leaves the store as it is does so. -/
theorem run_store_eq (h : ∀ made, ((c.doing a).act store made).store = store) :
    (run (c.doing a) store).store = store := by
  rcases hgen : c.generation store with t | issues | made
  · rw [run_of_error hgen]
  · rw [run_of_issues hgen]
    rfl
  · rw [run_of_made hgen]
    exact h made

/-- **When checking succeeds.** -/
theorem check_succeeds_iff :
    (run (c.doing .check) store).Succeeds ↔
      ∃ made, c.generation store = .ok (.ok made) ∧ made.isComplete = true := by
  rw [run_succeeds_iff]
  refine exists_congr fun made => and_congr_right fun _ => ?_
  obtain ⟨text, hact⟩ := act_check
  rw [hact]
  cases made.isComplete with
  | true => exact iff_of_true (showing_succeeds _) rfl
  | false => exact iff_of_false (not_refused_succeeds _) Bool.false_ne_true

/-- **When inspecting succeeds.** -/
theorem inspect_succeeds_iff {dump : Option Bundle.Format} :
    (run (c.doing (.inspect dump)) store).Succeeds ↔
      ∃ made, c.generation store = .ok (.ok made) := by
  rw [run_succeeds_iff]
  refine exists_congr fun made => and_iff_left ?_
  cases dump <;> exact showing_succeeds _

/-- **When generating succeeds.** -/
theorem generate_succeeds_iff :
    (run (c.doing (.generate g)) store).Succeeds ↔
      ∃ made, c.generation store = .ok (.ok made) ∧
        (made.isComplete || g.allowPartial) = true ∧ (g.save store made.bundle).2 = .ok () := by
  rw [run_succeeds_iff]
  refine exists_congr fun made => and_congr_right fun _ => ?_
  obtain ⟨text, hact⟩ := act_generate
  rw [hact]
  cases made.isComplete || g.allowPartial with
  | false => simpa using not_refused_succeeds _
  | true =>
    rcases g.save store made.bundle with ⟨store', t | ⟨⟩⟩
    · simp [Outcome.Succeeds]
    · simpa using showing_succeeds _

/-- A run that generates leaves the store in which the bundle is saved. -/
theorem store_of_generate (h : c.generation store = .ok (.ok made))
    (hpartial : (made.isComplete || g.allowPartial) = true)
    (hsave : g.save store made.bundle = (store', .ok ())) :
    (run (c.doing (.generate g)) store).store = store' := by
  obtain ⟨text, hact⟩ := act_generate
  rw [run_of_made h, hact, if_pos hpartial, hsave]
  rfl

end

/-! ## What is saved -/

theorem save_eq_ok_iff {folder path text : String} :
    save store folder path text = (store', .ok ()) ↔
      ∃ mid, store.createFolders folder = .ok mid ∧ mid.write path text = .ok store' := by
  unfold save
  cases store.createFolders folder with
  | error e => simp
  | ok mid =>
    simp only [Except.ok.injEq, exists_eq_left']
    cases mid.write path text with
    | error e => simp
    | ok last => simp

theorem save_of_vacant {folder path text : String} {x : List String}
    (hfolder : store.createFolders folder = .ok store)
    (hpath : store.locate path = .ok (.vacant x)) :
    save store folder path text =
      ({ store with files := store.files ++ [(x, text.toUTF8)] }, .ok ()) :=
  save_eq_ok_iff.2 ⟨store, hfolder, Store.write_of_vacant hpath⟩

theorem Generation.save_eq_ok_iff {b : Bundle} :
    g.save store b = (store', .ok ()) ↔
      ∃ mid, Command.save store g.output g.bundlePath (b.text g.format) = (mid, .ok ()) ∧
        if g.report then Command.save mid g.output g.reportPath b.report = (store', .ok ())
        else store' = mid := by
  unfold Generation.save
  rcases Command.save store g.output g.bundlePath (b.text g.format) with ⟨mid, t | ⟨⟩⟩
  · simp
  · cases g.report <;> simp [eq_comm]

theorem isFileName_fileName (f : Bundle.Format) : IsFileName f.fileName := by
  cases f <;> exact ⟨by decide, by decide⟩

theorem isFileName_routes : IsFileName "routes.txt" := ⟨by decide, by decide⟩

theorem fileName_ne_routes (f : Bundle.Format) : f.fileName ≠ "routes.txt" := by
  cases f <;> decide

/-- **What is saved is read**: the bundle and the report, each where its path leads. -/
theorem read_of_save {b : Bundle} (hreport : g.report = true)
    (h : g.save store b = (store', .ok ())) :
    store'.read g.bundlePath = .ok (b.text g.format) ∧ store'.read g.reportPath = .ok b.report := by
  obtain ⟨mid, hbundle, hreported⟩ := Generation.save_eq_ok_iff.1 h
  rw [if_pos hreport] at hreported
  obtain ⟨s₁, -, hwrite⟩ := save_eq_ok_iff.1 hbundle
  obtain ⟨s₂, hfolders, hwrite'⟩ := save_eq_ok_iff.1 hreported
  obtain ⟨last, hleads⟩ := Store.exists_leadsTo g.output
  obtain ⟨spot, hspot⟩ := Store.exists_locate_of_write hwrite
  obtain ⟨a, hx⟩ := hleads _ (isFileName_fileName g.format) hspot
  obtain ⟨spot', hspot'⟩ := Store.exists_locate_of_write hwrite'
  obtain ⟨a', hy⟩ := hleads _ isFileName_routes hspot'
  have hwrote := hx.wrote hwrite
  have hmore := Store.createFolders_moreFolders hfolders
  have hwrote' := hy.wrote hwrite'
  -- the report has another name, so it leaves the bundle as it is
  have hne : a ++ [last ++ g.format.fileName] ≠ a' ++ [last ++ "routes.txt"] := by
    intro heq
    have hlast := List.append_inj_right' heq rfl
    rw [List.cons.injEq, String.append_right_inj] at hlast
    exact fileName_ne_routes g.format hlast.1
  have hkept :
      store'.content? (a ++ [last ++ g.format.fileName]) = some (b.text g.format).toUTF8 := by
    rw [hwrote'.others _ hne, hmore.content?, hwrote.content]
  exact ⟨hx.read (hwrote.keeps.trans (hmore.keeps.trans hwrote'.keeps)) hkept,
    hy.read hwrote'.keeps hwrote'.content⟩

/-! ## The commands side by side -/

/-- **How the commands agree** on a schema, settings and store. -/
structure Agree (c : Command) (g : Generation) (store : Store) : Prop where
  /-- Checking succeeds exactly where generating does. -/
  check_iff : CanSave c g store → ((run (c.doing .check) store).Succeeds ↔
    (run (c.doing (.generate { g with allowPartial := false })) store).Succeeds)
  /-- Where checking does not succeed, generating ends the same way. -/
  check_fails : ¬ (run (c.doing .check) store).Succeeds →
    run (c.doing (.generate { g with allowPartial := false })) store = run (c.doing .check) store
  check_store : (run (c.doing .check) store).store = store
  inspect_store : ∀ dump, (run (c.doing (.inspect dump)) store).store = store
  /-- With what fails left out, generating succeeds exactly where inspecting does. -/
  inspect_iff : CanSave c { g with report := true } store → ∀ dump,
    ((run (c.doing (.inspect dump)) store).Succeeds ↔
      (run (c.doing (.generate { g with allowPartial := true, report := true })) store).Succeeds)
  /-- What it writes then is what inspecting prints. -/
  written :
    (run (c.doing (.generate { g with allowPartial := true, report := true })) store).Succeeds →
    let after :=
      (run (c.doing (.generate { g with allowPartial := true, report := true })) store).store
    after.read g.bundlePath = .ok (run (c.doing (.inspect (some g.format))) store).printed ∧
      after.read g.reportPath = .ok (run (c.doing (.inspect none)) store).printed

theorem generate_eq_check (h : ¬ (run (c.doing .check) store).Succeeds) :
    run (c.doing (.generate { g with allowPartial := false })) store =
      run (c.doing .check) store := by
  rcases hgen : c.generation store with t | issues | made
  · rw [run_of_error hgen, run_of_error hgen]
  · rw [run_of_issues hgen, run_of_issues hgen]
  · have hpartial : made.isComplete = false := by
      by_contra hcomplete
      exact h (check_succeeds_iff.2 ⟨made, hgen, by simpa using hcomplete⟩)
    obtain ⟨text, hact⟩ := act_check
    obtain ⟨text', hact'⟩ := act_generate
    rw [run_of_made hgen, run_of_made hgen, hact, hact', hpartial]
    rfl

theorem check_store_eq : (run (c.doing .check) store).store = store := by
  apply run_store_eq
  intro made
  obtain ⟨text, hact⟩ := act_check
  rw [hact]
  cases made.isComplete <;> rfl

theorem inspect_store_eq (dump : Option Bundle.Format) :
    (run (c.doing (.inspect dump)) store).store = store := by
  apply run_store_eq
  intro made
  cases dump <;> rfl

/-- **The commands agree.** -/
theorem commands_agree (c : Command) (g : Generation) (store : Store) : Agree c g store := by
  refine ⟨fun hsave => ?_, generate_eq_check, check_store_eq, inspect_store_eq,
    fun hsave dump => ?_, fun h => ?_⟩
  · rw [check_succeeds_iff, generate_succeeds_iff]
    refine exists_congr fun made => and_congr_right fun hgen => ?_
    rw [Bool.or_false]
    exact (and_iff_left (hsave made hgen)).symm
  · rw [inspect_succeeds_iff, generate_succeeds_iff]
    refine exists_congr fun made => ?_
    rw [Bool.or_true]
    constructor
    · intro hgen
      exact ⟨hgen, rfl, hsave made hgen⟩
    · exact And.left
  · obtain ⟨made, hgen, hpartial, hsave⟩ := generate_succeeds_iff.1 h
    obtain ⟨last, hsaved⟩ : ∃ last,
        ({ g with allowPartial := true, report := true } : Generation).save store made.bundle =
          (last, .ok ()) := ⟨_, Prod.ext rfl hsave⟩
    intro after
    have hafter : after = last := store_of_generate hgen hpartial hsaved
    have hread := read_of_save rfl hsaved
    rw [hafter, run_of_made hgen, run_of_made hgen]
    exact hread

/-- A schema of one method, which is not mapped. -/
def unmappedSchema : String :=
  "\x7b\"services\":[\x7b\"name\":\"S\",\"methods\":[\x7b\"name\":\"M\",\"input_type\":\"X\"," ++
  "\"output_type\":\"X\"\x7d]\x7d],\"messages\":[\x7b\"name\":\"X\"\x7d]\x7d"

/-- A folder with that schema. -/
def shelf : Store := .ofFiles ["w"] [("api.json", unmappedSchema)]

/-- A command for which methods that are not mapped fail. -/
def strict : Command := ⟨"api.json", { unmapped := some .error }, .check⟩

/-- A path without a leading slash starts in the folder of the schema. -/
theorem locate_shelf {files : List (List String × ByteArray)} {path : String} {spot : Files.Spot}
    (hpath : Store.Usable path) (hstart : ¬ path.startsWith "/" = true)
    (hway : (Files.Path.names path).foldlM (Store.step { shelf with files }) (.folder ["w"]) =
      .ok spot) : ({ shelf with files } : Store).locate path = .ok spot := by
  refine Store.locate_eq_ok_iff.2 ⟨hpath, ?_⟩
  rw [if_neg hstart]
  exact hway

theorem settings_strict :
    strict.overrides.settings shelf strict.schema = .ok { unmapped := .error } := by
  have hlocate : shelf.locate "routegen.toml" = .ok (.vacant ["w", "routegen.toml"]) :=
    locate_shelf ⟨by decide, by simp, by decide⟩ (by simp) rfl
  have hbeside : Settings.besideSchema? strict.schema = some "routegen.toml" := by decide +kernel
  have hfile : strict.overrides.file? shelf strict.schema = none := by
    unfold Settings.Overrides.file?
    rw [hbeside]
    simp [strict, Store.has, hlocate]
  unfold Settings.Overrides.settings
  rw [hfile]
  rfl

theorem document_strict :
    document shelf strict.schema =
      .ok ⟨"", [⟨"S", [], [⟨"M", "X", "X", []⟩]⟩], [⟨"X", [], [], []⟩], []⟩ := by
  have hlocate : shelf.locate "api.json" = .ok (.file ["w", "api.json"] unmappedSchema.toUTF8) :=
    locate_shelf ⟨by decide, by simp, by decide⟩ (by simp) rfl
  have hread : shelf.read "api.json" = .ok unmappedSchema := Store.read_eq_ok_iff.2 ⟨_, hlocate⟩
  have hextension : Files.Path.extension? "api.json" = some "json" := by decide +kernel
  have hreads : Document.ofJsonText unmappedSchema =
      .ok ⟨"", [⟨"S", [], [⟨"M", "X", "X", []⟩]⟩], [⟨"X", [], [], []⟩], []⟩ := by decide +kernel
  unfold document
  refine bind_eq_ok.2 ⟨unmappedSchema, mapError_eq_ok.2 hread, ?_⟩
  simp only [strict, hextension]
  rw [if_neg (by decide), hreads]
  rfl

/-- What is made of the schema lacks its only method. -/
theorem exists_generation_strict : ∃ made, strict.generation shelf = .ok (.ok made) ∧
    made.failures.map (·.cause) = [.unmapped] := by
  unfold generation
  rw [settings_strict, document_strict]
  exact ⟨_, rfl, rfl⟩

/-- The folder takes whatever is saved into it. -/
theorem canSave_shelf : CanSave strict { output := ".", report := true } shelf := by
  have hfolder : ∀ files, ({ shelf with files } : Store).locate "." = .ok (.folder ["w"]) := by
    intro files
    exact locate_shelf ⟨by decide, by simp, by decide⟩ (by simp) rfl
  have hcreate : ∀ files,
      ({ shelf with files } : Store).createFolders "." = .ok { shelf with files } := by
    intro files
    simp [Store.createFolders, Store.createFoldersWithin, Store.createFolder, Store.isFolder,
      hfolder, bind, Except.bind]
  have hbundle : shelf.locate "./routegen.json" = .ok (.vacant ["w", "routegen.json"]) :=
    locate_shelf ⟨by decide, by simp, by decide⟩ (by simp) rfl
  have hreport : ∀ content, ({ shelf with files := shelf.files ++
      [(["w", "routegen.json"], content)] } : Store).locate "./routes.txt" =
        .ok (.vacant ["w", "routes.txt"]) := by
    intro content
    exact locate_shelf ⟨by decide, by simp, by decide⟩ (by simp) rfl
  have hpaths : Files.Path.join "." "routegen.json" = "./routegen.json" ∧
      Files.Path.join "." "routes.txt" = "./routes.txt" := by decide +kernel
  intro made _
  have hsaved := Generation.save_eq_ok_iff (g := { output := ".", report := true }).2
    ⟨_, (congrArg (save shelf "." · (made.bundle.text .json)) hpaths.1).trans
      (save_of_vacant (hcreate _) hbundle),
      (congrArg (save _ "." · made.bundle.report) hpaths.2).trans
        (save_of_vacant (hcreate _) (hreport _))⟩
  rw [hsaved]

theorem commands_agree_shelf :
    CanSave strict { output := ".", report := true } shelf ∧
      ¬ (run (strict.doing .check) shelf).Succeeds ∧
      run (strict.doing (.generate { output := "." })) shelf = run (strict.doing .check) shelf ∧
      (run (strict.doing (.generate { output := ".", allowPartial := true, report := true }))
        shelf).Succeeds ∧
      (run (strict.doing (.generate { output := ".", allowPartial := true, report := true }))
        shelf).store.read (Generation.bundlePath { output := "." }) =
          .ok (run (strict.doing (.inspect (some .json))) shelf).printed := by
  have hagree := commands_agree strict { output := "." } shelf
  obtain ⟨made, hmade, hfailures⟩ := exists_generation_strict
  have hcheck : ¬ (run (strict.doing .check) shelf).Succeeds := by
    intro h
    obtain ⟨made', hmade', hcomplete⟩ := check_succeeds_iff.1 h
    rw [hmade] at hmade'
    cases hmade'
    rw [Bundle.Generation.isComplete, List.isEmpty_iff] at hcomplete
    rw [hcomplete] at hfailures
    cases hfailures
  have hgenerate := (hagree.inspect_iff canSave_shelf none).1 (inspect_succeeds_iff.2 ⟨made, hmade⟩)
  exact ⟨canSave_shelf, hcheck, hagree.check_fails hcheck, hgenerate, (hagree.written hgenerate).1⟩

end ServiceContract.Command
