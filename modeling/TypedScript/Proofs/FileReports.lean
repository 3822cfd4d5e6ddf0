import TypedScript.Command.Run
import TypedScript.Proofs.Findings

/-!
What a run prints about several files. Every file has one account: what is shown of it, or one
report of why it is not shown. Main statement: a run prints nothing but the accounts in the order of
the files, and how many reports there are. So if one file had another content, its own account, the
number of reports, the exit code and the line of a search that finds nothing would be all that could
differ.
-/

namespace TypedScript

inductive Account where
  | shown (text : String)
  | item (tree : JsonValue)
  | reported (text : String)

namespace Account

def output : Account → String
  | .shown text => text
  | .item _ | .reported _ => ""

def item? : Account → Option JsonValue
  | .item tree => some tree
  | .shown _ | .reported _ => none

def report? : Account → Option String
  | .reported text => some text
  | .shown _ | .item _ => none

end Account

/-! What is to be said of a file. -/

inductive Mode.Fails (options : ParseOptions) (source : String) : Mode → SyntaxError → Prop
  | tokens {error} :
      (lex options.keywords source).dump = .error error →
      Fails options source .tokens (.lexical error)
  | program {mode error} :
      mode ≠ .tokens → parseProgram options source = .error error → Fails options source mode error

inductive Mode.Shows (host : Host) (options : ParseOptions) (name source : String) :
    Mode → Account → Prop
  | outline {program} :
      parseProgram options source = .ok program →
      Shows host options name source .outline (.shown (program.outline name source))
  | json {program} :
      parseProgram options source = .ok program →
      Shows host options name source .json
        (.item (.object [("file", .string name), ("program", program.json)]))
  | tokens {dump} :
      (lex options.keywords source).dump = .ok dump →
      Shows host options name source .tokens (.shown (name ++ ":\n" ++ dump))
  | search {regex form program found text} :
      parseProgram options source = .ok program →
      Hits source regex form program.statements found →
      FoundFunction.Listing host.colorsOutput name found text →
      Shows host options name source (.search regex form) (.shown text)

inductive SyntaxError.ReportedAs (host : Host) (name source : String) (error : SyntaxError) :
    ReportStyle → String → Prop
  | plain :
      ReportedAs host name source error .plain
        (s!"{name}({error.position.line},{error.position.column}): " ++
          s!"error TS{error.diagnostic.code}: {error.diagnostic.text}\n")
  | labelled :
      ReportedAs host name source error .labelled
        (host.layout ⟨error.diagnostic.text, error.diagnostic.code, error.label, error.span, name,
          source⟩ ++ "\n")

namespace InputFile

/-- A file that can be read and processed is shown, any other is reported. -/
inductive HasAccount (host : Host) (mode : Mode) (style : ReportStyle) (options : ParseOptions) :
    InputFile → Account → Prop
  | unreadable {name error} :
      HasAccount host mode style options ⟨name, .error error⟩
        (.reported ((if host.colorsErrors then "\x1b[1m\x1b[31merror\x1b[0m" else "error") ++
          ": " ++ s!"cannot read '{name}': {error.message}\n"))
  | invalid {name source error text} :
      mode.Fails options source error → error.ReportedAs host name source style text →
      HasAccount host mode style options ⟨name, .ok source⟩ (.reported text)
  | shown {name source account} :
      mode.Shows host options name source account →
      HasAccount host mode style options ⟨name, .ok source⟩ account

def Fails (mode : Mode) (options : ParseOptions) (file : InputFile) : Prop :=
  (∃ error, file.content = .error error) ∨
    ∃ source error, file.content = .ok source ∧ mode.Fails options source error

def HasHit (regex : Regex) (form : Option FunctionForm) (options : ParseOptions)
    (file : InputFile) : Prop :=
  ∃ source program, file.content = .ok source ∧ parseProgram options source = .ok program ∧
    ∃ statement ∈ program.statements, ∃ name declared hit,
      statement.IsFunction name declared ∧ (∀ wanted, form = some wanted → declared = wanted) ∧
        regex.find? name.text = some hit

end InputFile

inductive Mode.Prints (options : ParseOptions) (files : List InputFile) (accounts : List Account) :
    Mode → String → Prop
  | outline :
      Prints options files accounts .outline (String.join (accounts.map Account.output))
  | tokens :
      Prints options files accounts .tokens (String.join (accounts.map Account.output))
  | json :
      Prints options files accounts .json
        ((JsonValue.array (accounts.filterMap Account.item?)).pretty ++ "\n")
  | found {regex form} :
      (∃ file ∈ files, file.HasHit regex form options) →
      Prints options files accounts (.search regex form)
        (String.join (accounts.map Account.output))
  | notFound {regex form} :
      (¬∃ file ∈ files, file.HasHit regex form options) →
      Prints options files accounts (.search regex form)
        (String.join (accounts.map Account.output) ++ "Nothing found\n")

inductive CountLine (colored : Bool) : Nat → String → Prop
  | none : CountLine colored 0 ""
  | one :
      CountLine colored 1
        (if colored then "\n\x1b[31mFound 1 error.\x1b[0m\n" else "\nFound 1 error.\n")
  | several {count} :
      1 < count →
      CountLine colored count
        (if colored then s!"\n\x1b[31mFound {count} errors.\x1b[0m\n"
        else s!"\nFound {count} errors.\n")

structure Outcome.AccountsFor (outcome : Outcome) (host : Host) (mode : Mode)
    (options : ParseOptions) (files : List InputFile) (accounts : List Account) : Prop where
  exitCode : outcome.exitCode = 0 ∨ outcome.exitCode = 1
  success : outcome.exitCode = 0 ↔ ∀ file ∈ files, ¬file.Fails mode options
  output : mode.Prints options files accounts outcome.output
  errors : ∃ line, CountLine host.colorsErrors (accounts.filterMap Account.report?).length line ∧
    outcome.errors = String.join (accounts.filterMap Account.report?) ++ line

/-! Every syntax error is reported where it was found, and it counts. -/

theorem GrammarError.severity_diagnostic (error : GrammarError) :
    error.diagnostic.severity = .error := by
  unfold diagnostic
  split
  · rfl
  · rfl
  · split <;> rfl
  · rfl
  · rfl

namespace SyntaxError

theorem severity_diagnostic (error : SyntaxError) : error.diagnostic.severity = .error := by
  cases error with
  | grammar error => exact error.severity_diagnostic
  | lexical error =>
      rcases error with ⟨fault, position, span⟩
      cases fault <;> rfl

theorem place_diagnostic (error : SyntaxError) :
    error.diagnostic.place = some (error.position, error.span) := by
  cases error <;> rfl

theorem isError_inFile (error : SyntaxError) (file : String) :
    (error.diagnostic.inFile file).isError = true := by
  simp [Diagnostic.isError, Diagnostic.inFile, error.severity_diagnostic]

theorem reportedAs_report (host : Host) (style : ReportStyle) (file source : String)
    (error : SyntaxError) :
    error.ReportedAs host file source style (error.report host style file source ++ "\n") := by
  cases style with
  | labelled => exact .labelled
  | plain =>
      have line : error.report host .plain file source ++ "\n" =
          s!"{file}({error.position.line},{error.position.column}): " ++
            s!"error TS{error.diagnostic.code}: {error.diagnostic.text}\n" := by
        simp [report, Diagnostic.line, Diagnostic.inFile, error.place_diagnostic,
          error.severity_diagnostic, Severity.text, String.append_assoc, toString]
        exact (String.append_assoc : ("): " ++ "error TS") ++ _ = _)
      rw [line]
      exact .plain

end SyntaxError

namespace Summary

theorem isClean_iff {summary : Summary} : summary.isClean = true ↔ summary.count = 0 := by
  simp [isClean, count, Diagnostic.errorCount]

end Summary

/-! What is printed and counted for one file. -/

structure Session.Holds (session : Session) (accounts : List Account) : Prop where
  output : session.output = String.join (accounts.map Account.output)
  errors : session.errors = String.join (accounts.filterMap Account.report?)
  count : session.summary.count = (accounts.filterMap Account.report?).length

namespace Session

variable {session : Session} {accounts : List Account}

theorem holds_start : start.Holds [] :=
  ⟨rfl, rfl, rfl⟩

theorem Holds.withAccount (holds : session.Holds accounts) {account : Account}
    (shown : account.report? = none) :
    (session.withOutput account.output).Holds (accounts ++ [account]) where
  output := by simp [withOutput, holds.output, String.join_append]
  errors := by simp [withOutput, holds.errors, shown]
  count := by simp [withOutput, holds.count, shown]

theorem Holds.withUnreadable (holds : session.Holds accounts) (text : String) :
    (session.withErrors text).withUnreadable.Holds (accounts ++ [.reported text]) where
  output := by simp [withErrors, Session.withUnreadable, holds.output, Account.output]
  errors := by
    simp [withErrors, Session.withUnreadable, holds.errors, Account.report?, String.join_append]
  count := by
    have count := holds.count
    simp only [Summary.count] at count
    simp only [withErrors, Session.withUnreadable, Summary.count, ← Nat.add_assoc, count]
    simp [Account.report?]

theorem Holds.withDiagnostic (holds : session.Holds accounts) (text : String)
    {diagnostic : Diagnostic} (isError : diagnostic.isError = true) :
    ((session.withErrors text).withDiagnostic diagnostic).Holds
      (accounts ++ [.reported text]) where
  output := by simp [withErrors, Session.withDiagnostic, holds.output, Account.output]
  errors := by
    simp [withErrors, Session.withDiagnostic, holds.errors, Account.report?, String.join_append]
  count := by
    have count := holds.count
    simp only [Summary.count, Diagnostic.errorCount] at count
    simp only [withErrors, Session.withDiagnostic, Summary.count, Diagnostic.errorCount,
      List.countP_append, List.countP_singleton, isError, if_true, Nat.add_right_comm, count]
    simp [Account.report?]

end Session

namespace FileResult

variable {host : Host} {style : ReportStyle}

def account (host : Host) (style : ReportStyle) (shown : String → String → α → Account)
    (result : FileResult α) : Account :=
  match result.outcome with
  | .error error =>
      .reported (host.errorText s!"cannot read '{result.name}': {error.message}" ++ "\n")
  | .ok (source, .ok output) => shown result.name source output
  | .ok (source, .error error) => .reported (error.report host style result.name source ++ "\n")

def collect (more : σ → String → String → α → σ) (collected : σ) (result : FileResult α) : σ :=
  match result.outcome with
  | .ok (source, .ok output) => more collected result.name source output
  | _ => collected

end FileResult

/-- A step of a loop collects what `more` says and prints what `shown` says. -/
def StepShows (step : σ → String → String → α → Run σ) (more : σ → String → String → α → σ)
    (shown : String → String → α → Account) : Prop :=
  ∀ collected name source output session,
    (shown name source output).report? = none ∧
      (step collected name source output).run session =
        (more collected name source output,
          session.withOutput (shown name source output).output)

theorem settleAll_cons (host : Host) (style : ReportStyle) {step : σ → String → String → α → Run σ}
    {more : σ → String → String → α → σ} {shown : String → String → α → Account}
    (shows : StepShows step more shown) {session : Session} {accounts : List Account}
    (holds : session.Holds accounts) (result : FileResult α) (rest : List (FileResult α))
    (collected : σ) :
    ∃ next : Session, next.Holds (accounts ++ [result.account host style shown]) ∧
      (settleAll host style step (result :: rest) collected).run session =
        (settleAll host style step rest (result.collect more collected)).run next := by
  rcases result with ⟨name, error | ⟨source, error | output⟩⟩
  · exact ⟨_, holds.withUnreadable _, rfl⟩
  · exact ⟨_, holds.withDiagnostic _ (error.isError_inFile name), rfl⟩
  · obtain ⟨noReport, ran⟩ := shows collected name source output session
    refine ⟨_, holds.withAccount noReport, ?_⟩
    exact congrArg
      (fun pair : σ × Session => (settleAll host style step rest pair.1).run pair.2) ran

theorem settleAll_holds (host : Host) (style : ReportStyle)
    {step : σ → String → String → α → Run σ} {more : σ → String → String → α → σ}
    {shown : String → String → α → Account} (shows : StepShows step more shown)
    (results : List (FileResult α)) (collected : σ) {session : Session} {accounts : List Account}
    (holds : session.Holds accounts) :
    ∃ next : Session, next.Holds (accounts ++ results.map (·.account host style shown)) ∧
      (settleAll host style step results collected).run session =
        (results.foldl (FileResult.collect more) collected, next) := by
  induction results generalizing collected session accounts with
  | nil => exact ⟨session, by simpa using holds, rfl⟩
  | cons result rest induction =>
      obtain ⟨middle, held, first⟩ := settleAll_cons host style shows holds result rest collected
      obtain ⟨next, all, ran⟩ := induction (result.collect more collected) held
      refine ⟨next, by simpa using all, ?_⟩
      rw [first, ran]
      rfl

/-! What is said of the outputs of the modes. -/

namespace Account

def ofOutline (name source : String) (program : Program) : Account :=
  .shown (program.outline name source)

def ofTree (name _source : String) (program : Program) : Account :=
  .item (.object [("file", .string name), ("program", program.json)])

def ofDump (name _source dump : String) : Account :=
  .shown (name ++ ":\n" ++ dump)

def ofFound (host : Host) (name _source : String) (found : List FoundFunction) : Account :=
  .shown (FoundFunction.listing host.colorsOutput name found)

end Account

namespace Mode

def account (host : Host) (style : ReportStyle) (options : ParseOptions) (file : InputFile) :
    Mode → Account
  | .outline => (file.process (parseProgram options)).account host style Account.ofOutline
  | .json => (file.process (parseProgram options)).account host style Account.ofTree
  | .tokens =>
      (file.process fun source => (lex options.keywords source).dump.mapError .lexical).account
        host style Account.ofDump
  | .search regex form =>
      (file.process fun source =>
        (parseProgram options source).map (·.findFunctions source regex form)).account
        host style (Account.ofFound host)

theorem hasAccount_unreadable (host : Host) (mode : Mode) (style : ReportStyle)
    (options : ParseOptions) (name : String) (error : ReadError) :
    InputFile.HasAccount host mode style options ⟨name, .error error⟩
      (.reported (host.errorText s!"cannot read '{name}': {error.message}" ++ "\n")) := by
  have text : host.errorText s!"cannot read '{name}': {error.message}" ++ "\n" =
      (if host.colorsErrors then "\x1b[1m\x1b[31merror\x1b[0m" else "error") ++ ": " ++
        s!"cannot read '{name}': {error.message}\n" := by
    simp [Host.errorText, String.append_assoc, toString]
  rw [text]
  exact .unreadable

theorem hasAccount_account (host : Host) (mode : Mode) (style : ReportStyle)
    (options : ParseOptions) (file : InputFile) :
    file.HasAccount host mode style options (mode.account host style options file) := by
  rcases file with ⟨name, error | source⟩
  · cases mode <;> exact hasAccount_unreadable host _ style options name error
  · have reported {mode : Mode} {error : SyntaxError} (fails : mode.Fails options source error) :=
      InputFile.HasAccount.invalid fails (error.reportedAs_report host style name source)
    cases mode with
    | tokens =>
        cases dumped : (lex options.keywords source).dump with
        | error error =>
            simp only [account, InputFile.process, Except.map, dumped, Except.mapError]
            exact reported (.tokens dumped)
        | ok dump =>
            simp only [account, InputFile.process, Except.map, dumped, Except.mapError]
            exact .shown (.tokens dumped)
    | outline =>
        cases parsed : parseProgram options source with
        | error error =>
            simp only [account, InputFile.process, Except.map, parsed]
            exact reported (.program (by simp) parsed)
        | ok program =>
            simp only [account, InputFile.process, Except.map, parsed]
            exact .shown (.outline parsed)
    | json =>
        cases parsed : parseProgram options source with
        | error error =>
            simp only [account, InputFile.process, Except.map, parsed]
            exact reported (.program (by simp) parsed)
        | ok program =>
            simp only [account, InputFile.process, Except.map, parsed]
            exact .shown (.json parsed)
    | search regex form =>
        cases parsed : parseProgram options source with
        | error error =>
            simp only [account, InputFile.process, Except.map, parsed]
            exact reported (.program (by simp) parsed)
        | ok program =>
            have hits := program.hits_findFunctions source regex form
            simp only [account, InputFile.process, Except.map, parsed]
            exact .shown (.search parsed hits
              (FoundFunction.listing_of_hits host.colorsOutput name hits.hitInName))

end Mode

/-! The loops. -/

namespace FileResult

variable {host : Host} {style : ReportStyle}

theorem foldl_trees (results : List (FileResult Program)) (trees : List JsonValue) :
    results.foldl (collect fun trees name _ program =>
        trees ++ [JsonValue.object [("file", .string name), ("program", program.json)]]) trees =
      trees ++ (results.map (·.account host style Account.ofTree)).filterMap Account.item? := by
  induction results generalizing trees with
  | nil => simp
  | cons result rest induction =>
      rw [List.foldl_cons, induction]
      rcases result with ⟨name, error | ⟨source, error | program⟩⟩
      · rfl
      · rfl
      · exact List.append_assoc trees _ _

theorem foldl_any {results : List (FileResult (List FoundFunction))} {any : Bool} :
    results.foldl (collect fun any _ _ found => any || !found.isEmpty) any = true ↔
      any = true ∨ ∃ result ∈ results, ∃ source found,
        result.outcome = .ok (source, .ok found) ∧ found ≠ [] := by
  induction results generalizing any with
  | nil => simp
  | cons result rest induction =>
      rw [List.foldl_cons, induction]
      simp only [List.mem_cons, exists_eq_or_imp]
      rw [← or_assoc]
      refine or_congr_left ?_
      rcases result with ⟨name, error | ⟨source, error | found⟩⟩ <;> simp [collect]

theorem output_account_ofTree (result : FileResult Program) :
    (result.account host style Account.ofTree).output = "" := by
  rcases result with ⟨name, error | ⟨source, error | program⟩⟩ <;> rfl

end FileResult

section Run

variable (host : Host) (style : ReportStyle)

theorem showOutlines_run (results : List (FileResult Program)) :
    ∃ session : Session, session.Holds (results.map (·.account host style Account.ofOutline)) ∧
      (showOutlines host style results).run .start = ((), session) := by
  have shows : StepShows
      (fun (_ : Unit) name source (program : Program) => Run.print (program.outline name source))
      (fun _ _ _ _ => ()) Account.ofOutline := fun _ _ _ _ _ => ⟨rfl, rfl⟩
  exact settleAll_holds host style shows results () Session.holds_start

theorem showTokens_run (results : List (FileResult String)) :
    ∃ session : Session, session.Holds (results.map (·.account host style Account.ofDump)) ∧
      (showTokens host style results).run .start = ((), session) := by
  have shows : StepShows
      (fun (_ : Unit) name _ dump => do
        Run.print s!"{name}:\n"
        Run.print dump)
      (fun _ _ _ _ => ()) Account.ofDump := fun _ name _ dump session =>
    ⟨rfl, by
      change ((), (session.withOutput (name ++ ":\n")).withOutput dump) = _
      simp only [Account.ofDump, Account.output, Session.withOutput, String.append_assoc]⟩
  exact settleAll_holds host style shows results () Session.holds_start

theorem showTrees_run (results : List (FileResult Program)) :
    let accounts := results.map (·.account host style Account.ofTree)
    ∃ session : Session, session.Holds accounts ∧
      (showTrees host style results).run .start =
        ((), session.withOutput
          ((JsonValue.array (accounts.filterMap Account.item?)).pretty ++ "\n")) := by
  have shows : StepShows
      (fun trees name _ (program : Program) => (do
        return trees ++ [JsonValue.object [("file", .string name), ("program", program.json)]]
        : Run (List JsonValue)))
      (fun trees name _ program =>
        trees ++ [JsonValue.object [("file", .string name), ("program", program.json)]])
      Account.ofTree := fun _ _ _ _ session =>
    ⟨rfl, by
      simp only [Account.ofTree, Account.output, Session.withOutput, String.append_empty]
      rfl⟩
  obtain ⟨session, holds, ran⟩ :=
    settleAll_holds host style shows results [] Session.holds_start
  rw [FileResult.foldl_trees] at ran
  refine ⟨session, holds, ?_⟩
  simp only [showTrees, StateT.run_bind, ran]
  rfl

theorem showFound_run (results : List (FileResult (List FoundFunction))) :
    ∃ session : Session,
      session.Holds (results.map (·.account host style (Account.ofFound host))) ∧
      ((∃ result ∈ results, ∃ source found,
          result.outcome = .ok (source, .ok found) ∧ found ≠ []) →
        (showFound host style results).run .start = ((), session)) ∧
      ((¬∃ result ∈ results, ∃ source found,
          result.outcome = .ok (source, .ok found) ∧ found ≠ []) →
        (showFound host style results).run .start =
          ((), session.withOutput "Nothing found\n")) := by
  have shows : StepShows
      (fun any name _ found => do
        Run.print (FoundFunction.listing host.colorsOutput name found)
        return any || !found.isEmpty)
      (fun any _ _ found => any || !found.isEmpty) (Account.ofFound host) := fun _ _ _ _ _ =>
    ⟨rfl, rfl⟩
  obtain ⟨session, holds, ran⟩ :=
    settleAll_holds host style shows results false Session.holds_start
  have any_iff := @FileResult.foldl_any results false
  simp only [Bool.false_eq_true, false_or] at any_iff
  refine ⟨session, holds, fun found => ?_, fun nothing => ?_⟩
  · simp only [showFound, StateT.run_bind, ran, any_iff.mpr found]
    rfl
  · simp only [showFound, StateT.run_bind, ran, Bool.eq_false_iff.mpr (nothing ∘ any_iff.mp)]
    rfl

end Run

theorem InputFile.hasHit_iff {options : ParseOptions} {regex : Regex} {form : Option FunctionForm}
    {file : InputFile} :
    file.HasHit regex form options ↔ ∃ source found,
      (file.process fun source =>
        (parseProgram options source).map (·.findFunctions source regex form)).outcome =
          .ok (source, .ok found) ∧ found ≠ [] := by
  rcases file with ⟨name, error | source⟩
  · simp [HasHit, process, Except.map]
  · cases parsed : parseProgram options source with
    | error error => simp [HasHit, process, Except.map, parsed]
    | ok program =>
        have hits := (program.hits_findFunctions source regex form).ne_nil_iff
        simp only [HasHit, process, Except.map, parsed, Except.ok.injEq, Prod.mk.injEq,
          exists_and_left, exists_eq_left', hits, and_assoc]

theorem join_eq_empty {texts : List String} (empty : ∀ text ∈ texts, text = "") :
    String.join texts = "" := by
  induction texts with
  | nil => rfl
  | cons text rest induction =>
      rw [String.join_cons, empty text List.mem_cons_self, String.empty_append]
      exact induction fun other member => empty other (List.mem_cons_of_mem text member)

theorem Mode.show_run (host : Host) (mode : Mode) (style : ReportStyle) (options : ParseOptions)
    (files : List InputFile) :
    let accounts := files.map (mode.account host style options ·)
    ∃ session : Session, (mode.show host style options files).run .start = ((), session) ∧
      session.errors = String.join (accounts.filterMap Account.report?) ∧
      session.summary.count = (accounts.filterMap Account.report?).length ∧
      mode.Prints options files accounts session.output := by
  intro accounts
  cases mode with
  | outline =>
      obtain ⟨session, holds, ran⟩ :=
        showOutlines_run host style (processFiles (parseProgram options) files)
      rw [processFiles, List.map_map] at holds
      refine ⟨session, ran, holds.errors, holds.count, ?_⟩
      rw [holds.output]
      exact .outline
  | tokens =>
      obtain ⟨session, holds, ran⟩ := showTokens_run host style
        (processFiles (fun source => (lex options.keywords source).dump.mapError .lexical) files)
      rw [processFiles, List.map_map] at holds
      refine ⟨session, ran, holds.errors, holds.count, ?_⟩
      rw [holds.output]
      exact .tokens
  | json =>
      obtain ⟨session, holds, ran⟩ :=
        showTrees_run host style (processFiles (parseProgram options) files)
      have silent : session.output = "" := by
        rw [holds.output]
        refine join_eq_empty fun text member => ?_
        simp only [List.map_map, List.mem_map] at member
        obtain ⟨result, _, rfl⟩ := member
        exact result.output_account_ofTree
      rw [processFiles, List.map_map] at holds ran
      refine ⟨_, ran, holds.errors, holds.count, ?_⟩
      rw [Session.withOutput, silent, String.empty_append]
      exact .json
  | search regex form =>
      obtain ⟨session, holds, ranFound, ranNothing⟩ := showFound_run host style
        (processFiles (fun source =>
          (parseProgram options source).map (·.findFunctions source regex form)) files)
      rw [processFiles, List.map_map] at holds
      simp only [processFiles, List.mem_map, exists_exists_and_eq_and, ← InputFile.hasHit_iff]
        at ranFound ranNothing
      by_cases hits : ∃ file ∈ files, file.HasHit regex form options
      · refine ⟨_, ranFound hits, holds.errors, holds.count, ?_⟩
        rw [holds.output]
        exact .found hits
      · refine ⟨_, ranNothing hits, holds.errors, holds.count, ?_⟩
        rw [Session.withOutput, holds.output]
        exact .notFound hits

theorem countLine_countText (host : Host) {count : Nat} (some : count ≠ 0) :
    CountLine host.colorsErrors count (countText host count ++ "\n") := by
  by_cases one : count = 1
  · have line : countText host count ++ "\n" =
        if host.colorsErrors then "\n\x1b[31mFound 1 error.\x1b[0m\n"
        else "\nFound 1 error.\n" := by
      rw [one]
      cases colored : host.colorsErrors <;> simp only [countText, colored] <;> rfl
    rw [line, one]
    exact .one
  · have line : countText host count ++ "\n" =
        if host.colorsErrors then s!"\n\x1b[31mFound {count} errors.\x1b[0m\n"
        else s!"\nFound {count} errors.\n" := by
      cases colored : host.colorsErrors with
      | false =>
          simpa [countText, colored, one, toString, String.append_assoc] using
            (String.append_assoc : ("\n" ++ "Found ") ++ (count.repr ++ " errors.\n") = _).symm
      | true =>
          simpa [countText, colored, one, toString, String.append_assoc] using
            (String.append_assoc :
              ("\n\x1b[31m" ++ "Found ") ++ (count.repr ++ " errors.\x1b[0m\n") = _).symm
    rw [line]
    exact .several (by omega)

theorem printSummary_run (host : Host) (session : Session) :
    ∃ line, CountLine host.colorsErrors session.summary.count line ∧
      (printSummary host).run session = ((), session.withErrors line) := by
  by_cases none : session.summary.count = 0
  · refine ⟨"", none ▸ .none, ?_⟩
    have silent : (printSummary host).run session = ((), session) := by
      simp only [printSummary, StateT.run_bind, StateT.run_get, pure_bind, none, if_true]
      rfl
    rw [silent, Session.withErrors, String.append_empty]
  · refine ⟨_, countLine_countText host none, ?_⟩
    simp only [printSummary, StateT.run_bind, StateT.run_get, pure_bind, none, if_false]
    rfl

theorem Mode.Shows.not_fails {host : Host} {mode : Mode} {options : ParseOptions}
    {name source : String} {account : Account} {error : SyntaxError}
    (shows : mode.Shows host options name source account) : ¬mode.Fails options source error := by
  rintro (dumped | ⟨notTokens, parsed⟩)
  · cases shows with
    | tokens dump => simp_all
  · cases shows <;> simp_all

theorem InputFile.HasAccount.report?_eq_none_iff {host : Host} {mode : Mode} {style : ReportStyle}
    {options : ParseOptions} {file : InputFile} {account : Account}
    (has : file.HasAccount host mode style options account) :
    account.report? = none ↔ ¬file.Fails mode options := by
  cases has with
  | unreadable => simp [Account.report?, Fails]
  | invalid fails _ => simpa [Account.report?, Fails] using ⟨_, fails⟩
  | shown shows =>
      refine iff_of_true (by cases shows <;> rfl) ?_
      rintro (⟨error, unreadable⟩ | ⟨source, error, readable, fails⟩)
      · cases unreadable
      · cases readable
        exact shows.not_fails fails

theorem accountsFor_showFiles (host : Host) (mode : Mode) (style : ReportStyle)
    (options : ParseOptions) (files : List InputFile) :
    (showFiles host mode style options files).AccountsFor host mode options files
      (files.map (mode.account host style options ·)) := by
  obtain ⟨session, ran, errors, count, prints⟩ := mode.show_run host style options files
  obtain ⟨line, counts, summed⟩ := printSummary_run host session
  have outcome : showFiles host mode style options files =
      ⟨if session.summary.isClean then 0 else 1, session.output, session.errors ++ line⟩ := by
    have run : (do mode.show host style options files; printSummary host : Run Unit).run .start =
        ((), session.withErrors line) := by
      rw [StateT.run_bind, ran]
      exact summed
    simp only [showFiles, run]
    rfl
  have clean : session.summary.isClean = true ↔ ∀ file ∈ files, ¬file.Fails mode options := by
    rw [Summary.isClean_iff, count, List.length_eq_zero_iff, List.filterMap_eq_nil_iff]
    simp only [List.forall_mem_map]
    exact forall₂_congr fun file _ =>
      (mode.hasAccount_account host style options file).report?_eq_none_iff
  rw [outcome]
  refine ⟨?_, ?_, prints, line, count ▸ counts, by rw [errors]⟩
  · dsimp only
    split
    · exact .inl rfl
    · exact .inr rfl
  · rw [← clean]
    dsimp only
    split <;> simp_all

theorem Command.runWith_eq {host : Host} {source : FileSource Id} {command : Command}
    {project : Option (String × Project)} {options : ParseOptions} {mode : Mode}
    {files : List InputFile} (inputs : command.inputs project = .ok (files.map (·.name), options))
    (selected : command.mode host = .ok mode)
    (read : ∀ file ∈ files, source.read file.name = file.content) :
    command.runWith host source project = showFiles host mode command.style options files := by
  have contents : (files.map (·.name)).map (fun path => InputFile.mk path (source.read path)) =
      files := by
    rw [List.map_map]
    conv => rhs; rw [← List.map_id files]
    refine List.map_congr_left fun file member => ?_
    simp [read file member]
  simp only [Command.runWith, inputs, selected]
  conv => rhs; rw [← contents]
  exact congrArg (showFiles host mode command.style options) (List.mapM_pure)

/-- Every file has its account, whatever the other files hold. A run prints the accounts in the
order of the files and how many reports there are among them, and nothing else. -/
theorem showFiles_accounts (host : Host) (mode : Mode) (style : ReportStyle)
    (options : ParseOptions) (front back : List InputFile) (name : String) :
    ∃ before after : List Account,
      List.Forall₂ (InputFile.HasAccount host mode style options) front before ∧
      List.Forall₂ (InputFile.HasAccount host mode style options) back after ∧
      ∀ content : Except ReadError String,
        let files := front ++ ⟨name, content⟩ :: back
        ∃ account : Account,
          InputFile.HasAccount host mode style options ⟨name, content⟩ account ∧
          (showFiles host mode style options files).AccountsFor host mode options files
            (before ++ account :: after) ∧
          ∀ (command : Command) (project : Option (String × Project)) (source : FileSource Id),
            command.inputs project = .ok (files.map (·.name), options) →
            command.mode host = .ok mode → command.style = style →
            (∀ file ∈ files, source.read file.name = file.content) →
            command.runWith host source project = showFiles host mode style options files := by
  have each (files : List InputFile) :
      List.Forall₂ (InputFile.HasAccount host mode style options) files
        (files.map (mode.account host style options ·)) := by
    rw [List.forall₂_map_right_iff, List.forall₂_same]
    exact fun file _ => mode.hasAccount_account host style options file
  refine ⟨_, _, each front, each back, fun content => ?_⟩
  refine ⟨_, mode.hasAccount_account host style options ⟨name, content⟩, ?_, ?_⟩
  · have run := accountsFor_showFiles host mode style options (front ++ ⟨name, content⟩ :: back)
    rwa [List.map_append, List.map_cons] at run
  · rintro command project source inputs selected rfl read
    exact Command.runWith_eq inputs selected read

def Regex.word (word : String) : Regex where
  find? text := if text = word then some ⟨0, word.utf8ByteSize⟩ else none
  inText := by
    intro text hit found
    split at found
    · next same =>
        cases found
        exact ⟨"", text, "", by simp, by simp [same]⟩
    · cases found

theorem showFiles_accounts_missing :
    let host : Host := ⟨fun text => some (Regex.word text), fun error => error.label, false, false⟩
    let command : Command :=
      { Command.empty with files := ["good.ts", "gone.ts"], find := some "f", plain := true }
    let read (path : String) : Except ReadError String :=
      if path = "good.ts" then .ok "function f();" else .error .missing
    let files : List InputFile := [⟨"good.ts", .ok "function f();"⟩, ⟨"gone.ts", .error .missing⟩]
    let outcome := showFiles host (.search (Regex.word "f") none) .plain .default files
    command.inputs none = .ok (files.map (·.name), .default) ∧
      command.mode host = .ok (.search (Regex.word "f") none) ∧ command.style = .plain ∧
      (∀ file ∈ files, read file.name = file.content) ∧
      command.runWith host (⟨fun _ => false, read⟩ : FileSource Id) none = outcome ∧
      outcome = ⟨1, "good.ts:\n  function [1:10]: f\n",
        "error: cannot read 'gone.ts': No such file or directory (os error 2)\n\nFound 1 error.\n"
        ⟩ := by
  intro host command read files outcome
  have inputs : command.inputs none = .ok (files.map (·.name), .default) := rfl
  have holds : ∀ file ∈ files, read file.name = file.content := by
    simp [files, read]
  obtain ⟨_, _, _, _, accounts⟩ := showFiles_accounts host (.search (Regex.word "f") none) .plain
    .default [⟨"good.ts", .ok "function f();"⟩] [] "gone.ts"
  obtain ⟨_, _, _, run⟩ := accounts (.error .missing)
  refine ⟨inputs, rfl, rfl, holds, run command none ⟨fun _ => false, read⟩ inputs rfl rfl holds, ?_⟩
  decide +kernel

end TypedScript
