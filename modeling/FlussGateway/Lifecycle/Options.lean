import FlussGateway.Lifecycle.Script

/-!
# What the option parser returns

`get_opt` is given a key and looks for `--pid-file=` whatever the key is; a value in a word of
its own is not looked for. What an option is given is defined here from the key, and every
caller of `get_opt` compared with it. Which words may stand as a value of their own is left open.
-/
namespace FlussGateway.Lifecycle

open FlussGateway.Foundation FlussGateway.Foundation.Shell

/-! ## What an option is given -/

/-- The value of the first `key=value`, or after the first `key` that a value follows, whichever
comes first. -/
def asked (isValue : String → Bool) (key : String) : List String → Option String
  | [] => none
  | arg :: rest =>
    match removePrefix (key ++ "=") arg with
    | some value => some value
    | none =>
      match (if arg = key then rest.head?.filter isValue else none) with
      | some value => some value
      | none => asked isValue key rest

/-- A word that is for the option of this key. -/
def ForKey (key word : String) : Prop := word = key ∨ ∃ value, word = key ++ "=" ++ value

/-- The first word that the parser takes for the option. -/
def firstPidFile (args : List String) : Option String :=
  args.findSome? (removePrefix "--pid-file=")

theorem getOpt_eq (key : String) (args : List String) :
    getOpt key args = echo ((firstPidFile args).getD "") := by
  unfold firstPidFile
  induction args with
  | nil => rfl
  | cons arg args ih =>
    rw [getOpt, List.findSome?_cons]
    cases removed : removePrefix "--pid-file=" arg with
    | some value => rfl
    | none => exact ih

/-! ## The printed value -/

/-- The value is printed, or an empty line where there is none. -/
def Answers (isValue : String → Bool) (key : String) (args : List String) : Prop :=
  getOpt key args = (asked isValue key args).getD "" ++ "\n"

/-- The first `--pid-file=` word carries just the value that the option is given; where there is no
such word, the option is given nothing or the empty value. A word that `echo` takes for options
is not printed. -/
def AnswersWhen (found given : Option String) : Prop :=
  match found with
  | none => given.getD "" = ""
  | some word =>
    if echoOption word then word.toList.contains 'n' = false ∧ given.getD "" = ""
    else given.getD "" = word

theorem line_eq_iff (word : String) : word ++ "\n" = "\n" ↔ word = "" := by
  constructor
  · intro same
    exact (String.append_left_inj "\n").mp (by rw [same]; decide)
  · rintro rfl
    decide

theorem answers_iff (isValue : String → Bool) (key : String) (args : List String) :
    Answers isValue key args ↔ AnswersWhen (firstPidFile args) (asked isValue key args) := by
  unfold Answers AnswersWhen
  rw [getOpt_eq]
  cases firstPidFile args with
  | none => exact eq_comm.trans (line_eq_iff _)
  | some word =>
    simp only [Option.getD_some, echo]
    split
    next option =>
      split
      -- `echo -n` prints nothing at all, not even the end of the line.
      next silent =>
        rw [silent]
        constructor
        · intro same
          have ends := congrArg (fun text => text.toList.length) same
          simp at ends
        · rintro ⟨other, _⟩
          cases other
      next line =>
        have other : word.toList.contains 'n' = false := by simpa using line
        rw [eq_comm, line_eq_iff, other]
        exact ⟨fun empty => ⟨rfl, empty⟩, And.right⟩
    next => rw [String.append_left_inj, eq_comm]

/-! ## Arguments for other keys -/

/-- Words for other keys may come and go, anywhere but between the key and its value. -/
def Independent (key : String) : Prop :=
  ∀ before words after, before.getLast? ≠ some key → (∀ word ∈ words, ¬ForKey key word) →
    getOpt key (before ++ words ++ after) = getOpt key (before ++ after)

/-- The only separator of a text splits it in one way. -/
theorem split_unique {α : Type} {a : α} {xs ys zs ws : List α} (same : xs ++ a :: ys = zs ++ a :: ws)
    (first : a ∉ zs) (last : a ∉ ws) : xs = zs := by
  rcases List.append_eq_append_iff.mp same with ⟨more, longer, rest⟩ | ⟨more, longer, rest⟩
  · cases more with
    | nil => rw [longer, List.append_nil]
    | cons b more =>
      obtain rfl := (List.cons.inj rest).1
      exact absurd (longer ▸ List.mem_append_right xs (List.mem_cons_self ..)) first
  · cases more with
    | nil => rw [longer, List.append_nil]
    | cons b more =>
      have tail := (List.cons.inj rest).2
      exact absurd (tail ▸ List.mem_append_right more (List.mem_cons_self ..)) last

theorem pidFile_forKey {key value : String} (plain : '=' ∉ value.toList)
    (word : ForKey key ("--pid-file=" ++ value)) :
    key = "--pid-file=" ++ value ∨ key = "--pid-file" := by
  rcases word with same | ⟨rest, same⟩
  · exact .inl same.symm
  · right
    have texts := congrArg String.toList same
    simp only [String.toList_append, List.append_assoc] at texts
    exact String.toList_inj.mp (split_unique texts.symm (by decide) plain)

/-- A word for the PID file that is no word for another key. -/
theorem pidFile_word {key : String} (other : key ≠ "--pid-file") :
    ∃ value, value ≠ "" ∧ echoOption value = false ∧ ¬ForKey key ("--pid-file=" ++ value) := by
  by_cases taken : key = "--pid-file=" ++ "x"
  · refine ⟨"y", by decide, by decide, fun word => ?_⟩
    rcases pidFile_forKey (by decide) word with same | same
    · exact absurd (taken.symm.trans same) (by decide)
    · exact other same
  · refine ⟨"x", by decide, by decide, fun word => ?_⟩
    rcases pidFile_forKey (by decide) word with same | same
    · exact taken same
    · exact other same

theorem independent_iff (key : String) : Independent key ↔ key = "--pid-file" := by
  constructor
  · intro independent
    by_contra other
    obtain ⟨value, full, plain, word⟩ := pidFile_word other
    have same := independent [] ["--pid-file=" ++ value] [] nofun (by simpa using word)
    simp only [getOpt_eq, List.nil_append, List.append_nil, firstPidFile, List.findSome?_cons,
      removePrefix_eq_some_iff.mpr rfl, List.findSome?_nil, Option.getD_some, Option.getD_none,
      echo, plain] at same
    exact full ((line_eq_iff value).mp same)
  · rintro rfl before words after _ others
    have none_ : words.findSome? (removePrefix "--pid-file=") = none := by
      rw [List.findSome?_eq_none_iff]
      intro word member
      rw [removePrefix_eq_none_iff]
      rintro value rfl
      exact others _ member (.inr ⟨value, rfl⟩)
    simp only [getOpt_eq, firstPidFile, List.findSome?_append, none_, Option.or_none]

/-! ## What the commands touch -/

/-- The file that a command looks at or changes. -/
def Tool.file? : Tool → Option String
  | .isFile path | .cat path | .rm path | .writePid path _ => some path
  | _ => none

def Tool.url? : Tool → Option String
  | .curl url => some url
  | _ => none

/-- No other PID file than this one, and no other URL. -/
def Touches (path url : String) (tool : Tool) : Prop :=
  (∀ file, tool.file? = some file → file = path) ∧ ∀ probed, tool.url? = some probed → probed = url

section Touches

variable {α : Type} {path url : String}

theorem touches_idle {tool : Tool} (files : tool.file? = none) (urls : tool.url? = none) :
    Touches path url tool :=
  ⟨fun _ file => (by rw [files] at file; cases file),
    fun _ probed => (by rw [urls] at probed; cases probed)⟩

theorem touches_file {tool : Tool} (files : tool.file? = some path) (urls : tool.url? = none) :
    Touches path url tool :=
  ⟨fun _ file => (by rw [files] at file; cases file; rfl),
    fun _ probed => (by rw [urls] at probed; cases probed)⟩

theorem touches_curl : Touches path url (.curl url) :=
  ⟨nofun, fun _ probed => by cases probed; rfl⟩

theorem idle_always {tool : Tool} (files : tool.file? = none) (urls : tool.url? = none) :
    (Program.perform tool : Script tool.Reply).Always (Touches path url) :=
  Program.always_perform (touches_idle files urls)

theorem file_always {tool : Tool} (files : tool.file? = some path) (urls : tool.url? = none) :
    (Program.perform tool : Script tool.Reply).Always (Touches path url) :=
  Program.always_perform (touches_file files urls)

theorem print_touches (stream : Stream) (line : String) :
    (print stream line).Always (Touches path url) := idle_always rfl rfl

theorem log_touches (text : String) : (log text).Always (Touches path url) :=
  Program.always_bind (idle_always rfl rfl) fun _ => print_touches ..

theorem warn_touches (text : String) : (warn text).Always (Touches path url) :=
  Program.always_bind (idle_always rfl rfl) fun _ => print_touches ..

theorem die_touches (text : String) : (die text : Script α).Always (Touches path url) :=
  Program.always_bind (idle_always rfl rfl) fun _ =>
    Program.always_bind (print_touches ..) fun _ => trivial

theorem checked_touches (errexit succeeded : Bool) (status : ExitStatus) :
    (checked errexit succeeded status).Always (Touches path url) := by
  unfold checked
  split <;> trivial

theorem rm_touches (errexit : Bool) : (rm errexit path).Always (Touches path url) :=
  Program.always_bind (file_always rfl rfl) fun _ => checked_touches ..

theorem isAlive_touches (pid : Option Pid) : (isAlive pid).Always (Touches path url) :=
  idle_always rfl rfl

theorem waitForHealth_touches (left : Nat) :
    (waitForHealth url left).Always (Touches path url) := by
  induction left with
  | zero => trivial
  | succ left ih =>
    refine Program.always_bind (Program.always_perform touches_curl) fun reply => ?_
    cases reply with
    | ok => trivial
    | error => exact Program.always_bind (idle_always rfl rfl) fun _ => ih

theorem waitForExit_touches (pid : Option Pid) (left : Nat) :
    (waitForExit pid left).Always (Touches path url) := by
  induction left with
  | zero => exact Program.always_bind (isAlive_touches _) fun _ => trivial
  | succ left ih =>
    refine Program.always_bind (isAlive_touches _) fun alive => ?_
    cases alive with
    | true => exact Program.always_bind (idle_always rfl rfl) fun _ => ih
    | false => trivial

theorem refuseRunning_touches : (refuseRunning path).Always (Touches path url) := by
  refine Program.always_bind (file_always rfl rfl) fun present => ?_
  cases present with
  | false => trivial
  | true =>
    refine Program.always_bind (file_always rfl rfl) fun oldPid => ?_
    refine Program.always_bind (checked_touches ..) fun _ => ?_
    refine Program.always_bind (isAlive_touches _) fun alive => ?_
    cases alive with
    | true => exact die_touches _
    | false => exact rm_touches _

theorem launch_touches (runCmd : List String) (globals : Globals) (serveArgs : List String) :
    (launch runCmd globals serveArgs).Always (Touches globals.pidFile globals.healthUrl) := by
  refine Program.always_bind (log_touches _) fun _ => ?_
  refine Program.always_bind (idle_always rfl rfl) fun pid => ?_
  refine Program.always_bind (file_always rfl rfl) fun written => ?_
  refine Program.always_bind (checked_touches ..) fun _ => ?_
  refine Program.always_bind (log_touches _) fun _ => ?_
  refine Program.always_bind (log_touches _) fun _ => ?_
  refine Program.always_bind (waitForHealth_touches _) fun healthy => ?_
  cases healthy with
  | true => exact log_touches _
  | false => exact Program.always_bind (warn_touches _) fun _ => log_touches _

theorem reportHealth_touches : (reportHealth url).Always (Touches path url) := by
  refine Program.always_bind (Program.always_perform touches_curl) fun reply => ?_
  cases reply with
  | error => exact Program.always_bind (print_touches ..) fun _ => trivial
  | ok =>
    refine Program.always_bind (Program.always_perform touches_curl) fun reply => ?_
    cases reply with
    | error => trivial
    | ok => exact Program.always_bind (print_touches ..) fun _ => trivial

theorem terminate_touches (errexit : Bool) (pid : Option Pid) :
    (terminate errexit pid).Always (Touches path url) := by
  refine Program.always_bind (idle_always rfl rfl) fun sent => ?_
  refine Program.always_bind (checked_touches ..) fun _ => ?_
  refine Program.always_bind (waitForExit_touches ..) fun _ => ?_
  refine Program.always_bind (isAlive_touches _) fun alive => ?_
  cases alive with
  | false => trivial
  | true =>
    refine Program.always_bind (warn_touches _) fun _ => ?_
    exact Program.always_bind (idle_always rfl rfl) fun _ => idle_always rfl rfl

end Touches

theorem getOpt_dropSeparator (key : String) (args : List String) :
    getOpt key (dropSeparator args) = getOpt key args := by
  unfold dropSeparator
  split
  next args => rw [getOpt, show removePrefix "--pid-file=" "--" = none by decide]
  next => rfl

theorem withPidFile_withPort (globals : Globals) (args : List String) :
    (globals.withPidFile args).withPort args = globals.read args := by
  unfold Globals.read Globals.withPidFile
  dsimp only
  split <;> rfl

theorem pidFile_read (globals : Globals) (args : List String) :
    (globals.read args).pidFile = (globals.withPidFile args).pidFile := by
  rw [← withPidFile_withPort, Globals.withPort]

theorem withPidFile_twice (globals : Globals) (args : List String) :
    (globals.withPidFile args).withPidFile args = globals.withPidFile args := by
  unfold Globals.withPidFile
  dsimp only
  split <;> rfl

theorem read_dropSeparator (globals : Globals) (args : List String) :
    globals.read (dropSeparator args) = globals.read args := by
  simp only [Globals.read, Globals.withPidFile, Globals.withPort, getOpt_dropSeparator]

theorem doStart_touches (runCmd : List String) (globals : Globals) (args : List String) :
    (doStart runCmd globals args).Always
      (Touches (globals.read args).pidFile (globals.read args).healthUrl) := by
  rw [← read_dropSeparator]
  refine Program.always_bind refuseRunning_touches fun _ => ?_
  exact Program.always_bind (launch_touches ..) fun _ => trivial

theorem doStop_touches (errexit : Bool) (globals : Globals) (args : List String) (url : String) :
    (doStop errexit globals args).Always (Touches (globals.withPidFile args).pidFile url) := by
  refine Program.always_bind (file_always rfl rfl) fun present => ?_
  cases present with
  | false => exact die_touches _
  | true =>
    refine Program.always_bind (file_always rfl rfl) fun pid => ?_
    refine Program.always_bind (checked_touches ..) fun _ => ?_
    refine Program.always_bind (isAlive_touches _) fun alive => ?_
    cases alive with
    | true =>
      refine Program.always_bind (log_touches _) fun _ => ?_
      refine Program.always_bind (terminate_touches ..) fun _ => ?_
      refine Program.always_bind (rm_touches _) fun _ => ?_
      exact Program.always_bind (log_touches _) fun _ => trivial
    | false =>
      refine Program.always_bind (log_touches _) fun _ => ?_
      exact Program.always_bind (rm_touches _) fun _ => trivial

theorem doStatus_touches (globals : Globals) (args : List String) :
    (doStatus globals args).Always
      (Touches (globals.read args).pidFile (globals.read args).healthUrl) := by
  rw [← withPidFile_withPort]
  refine Program.always_bind (file_always rfl rfl) fun present => ?_
  cases present with
  | false =>
    exact Program.always_bind (print_touches ..) fun _ =>
      Program.always_bind (print_touches ..) fun _ => trivial
  | true =>
    refine Program.always_bind (file_always rfl rfl) fun pid => ?_
    refine Program.always_bind (checked_touches ..) fun _ => ?_
    refine Program.always_bind (isAlive_touches _) fun alive => ?_
    cases alive with
    | true => exact Program.always_bind (print_touches ..) fun _ => reportHealth_touches
    | false =>
      exact Program.always_bind (print_touches ..) fun _ =>
        Program.always_bind (print_touches ..) fun _ => trivial

/-! ## What the commands are asked to touch -/

section Commands

variable {α : Type}

/-- The command looks at this PID file and no other. -/
def UsesFile (path : String) (command : Script α) : Prop :=
  command.Always fun tool => ∀ file, tool.file? = some file → file = path

/-- The command probes this URL and no other. -/
def Probes (url : String) (command : Script α) : Prop :=
  command.Always fun tool => ∀ probed, tool.url? = some probed → probed = url

theorem usesFile_of_touches {path path' url : String} {command : Script α}
    (touches : command.Always (Touches path url)) (same : path = path') :
    UsesFile path' command :=
  touches.mono fun _ touched file named => (touched.1 file named).trans same

theorem probes_of_touches {path url url' : String} {command : Script α}
    (touches : command.Always (Touches path url)) (same : url = url') : Probes url' command :=
  touches.mono fun _ touched probed named => (touched.2 probed named).trans same

variable (runCmd : List String) (globals : Globals) (args : List String) {path url : String}

theorem doStart_usesFile_iff :
    UsesFile path (doStart runCmd globals args) ↔ (globals.read args).pidFile = path := by
  refine ⟨fun uses => ?_, usesFile_of_touches (doStart_touches ..)⟩
  rw [← read_dropSeparator]
  exact And.left uses _ rfl

theorem doStop_usesFile_iff (errexit : Bool) :
    UsesFile path (doStop errexit globals args) ↔ (globals.withPidFile args).pidFile = path :=
  ⟨fun uses => And.left uses _ rfl, usesFile_of_touches (doStop_touches _ _ _ "")⟩

theorem doStatus_usesFile_iff :
    UsesFile path (doStatus globals args) ↔ (globals.read args).pidFile = path := by
  refine ⟨fun uses => ?_, usesFile_of_touches (doStatus_touches ..)⟩
  rw [← withPidFile_withPort]
  exact And.left uses _ rfl

/-- Where nothing runs yet, the process is started and then probed. -/
theorem doStart_probes_iff :
    Probes url (doStart runCmd globals args) ↔ (globals.read args).healthUrl = url := by
  refine ⟨fun probes => ?_, probes_of_touches (doStart_touches ..)⟩
  rw [← read_dropSeparator]
  have started := (((probes.after false).after "").after ()).after 0
  have waiting := ((((started.after true).after "").after ()).after "").after ()
  exact And.left waiting _ rfl

theorem doStatus_probes_iff :
    Probes url (doStatus globals args) ↔ (globals.read args).healthUrl = url := by
  refine ⟨fun probes => ?_, probes_of_touches (doStatus_touches ..)⟩
  rw [← withPidFile_withPort]
  have alive := (((probes.after true).after (some 0)).after true).after ()
  exact And.left alive _ rfl

end Commands

/-! ## When the commands touch what they are asked to -/

/-- What a `--pid-file=` word comes to when it has been printed and read back. -/
def carried : Option String → String
  | none => ""
  | some word => if echoOption word then "" else substitute word

theorem substitute_getOpt (key : String) (args : List String) :
    substitute (getOpt key args) = carried (firstPidFile args) := by
  rw [getOpt_eq, substitute_echo]
  cases firstPidFile args with
  | none => decide
  | some word => rfl

theorem orDefault_eq_iff {fallback a b : String} :
    orDefault fallback a = orDefault fallback b ↔
      a = b ∨ (a = "" ∨ a = fallback) ∧ (b = "" ∨ b = fallback) := by
  unfold orDefault
  split <;> split <;> simp_all [eq_comm]

theorem urlOf_injective : Function.Injective urlOf := by
  intro a b same
  exact (String.append_right_inj _).mp ((String.append_left_inj _).mp same)

theorem read_pidFile (args : List String) :
    ((default : Globals).read args).pidFile =
      orDefault defaultPidFile (carried (firstPidFile args)) := by
  unfold Globals.read Globals.withPidFile orDefault
  rw [substitute_getOpt]
  dsimp only
  split <;> rfl

theorem withPidFile_pidFile (args : List String) :
    ((default : Globals).withPidFile args).pidFile =
      orDefault defaultPidFile (carried (firstPidFile args)) := by
  rw [← pidFile_read, read_pidFile]

theorem read_healthUrl (args : List String) :
    ((default : Globals).read args).healthUrl =
      urlOf (orDefault "8080" (carried (firstPidFile args))) := by
  rw [← withPidFile_withPort, Globals.withPort, substitute_getOpt]

/-- The URL and the file that the arguments ask for. -/
def askedUrl (isValue : String → Bool) (args : List String) : String :=
  urlOf (orDefault "8080" ((asked isValue "--port" args).getD ""))

def askedFile (isValue : String → Bool) (args : List String) : String :=
  orDefault defaultPidFile ((asked isValue "--pid-file" args).getD "")

/-- The first `--pid-file=` word comes to the very value that the option is given, or both leave the
default in place. -/
def SettlesWhen (fallback : String) (found given : Option String) : Prop :=
  carried found = given.getD "" ∨
    (carried found = "" ∨ carried found = fallback) ∧
      (given.getD "" = "" ∨ given.getD "" = fallback)

/-- For every key, every argument list and every command: where the parser does what it is asked. -/
structure ParsesWhen (isValue : String → Bool) (runCmd : List String) : Prop where
  answers : ∀ key args, Answers isValue key args ↔
    AnswersWhen (firstPidFile args) (asked isValue key args)
  independent : ∀ key, Independent key ↔ key = "--pid-file"
  startProbes : ∀ args, Probes (askedUrl isValue args) (doStart runCmd default args) ↔
    SettlesWhen "8080" (firstPidFile args) (asked isValue "--port" args)
  statusProbes : ∀ args, Probes (askedUrl isValue args) (doStatus default args) ↔
    SettlesWhen "8080" (firstPidFile args) (asked isValue "--port" args)
  startFile : ∀ args, UsesFile (askedFile isValue args) (doStart runCmd default args) ↔
    SettlesWhen defaultPidFile (firstPidFile args) (asked isValue "--pid-file" args)
  stopFile : ∀ args, UsesFile (askedFile isValue args) (doStop true default args) ↔
    SettlesWhen defaultPidFile (firstPidFile args) (asked isValue "--pid-file" args)
  statusFile : ∀ args, UsesFile (askedFile isValue args) (doStatus default args) ↔
    SettlesWhen defaultPidFile (firstPidFile args) (asked isValue "--pid-file" args)

theorem options_iff (isValue : String → Bool) (runCmd : List String) :
    ParsesWhen isValue runCmd where
  answers := answers_iff isValue
  independent := independent_iff
  startProbes args := by
    rw [doStart_probes_iff, read_healthUrl, askedUrl, urlOf_injective.eq_iff, orDefault_eq_iff]
    rfl
  statusProbes args := by
    rw [doStatus_probes_iff, read_healthUrl, askedUrl, urlOf_injective.eq_iff, orDefault_eq_iff]
    rfl
  startFile args := by
    rw [doStart_usesFile_iff, read_pidFile, askedFile, orDefault_eq_iff]
    rfl
  stopFile args := by
    rw [doStop_usesFile_iff, withPidFile_pidFile, askedFile, orDefault_eq_iff]
    rfl
  statusFile args := by
    rw [doStatus_usesFile_iff, read_pidFile, askedFile, orDefault_eq_iff]
    rfl

/-- A port that is given is not found, a PID file is taken for the port, and a PID file in a word of
its own is passed over. -/
theorem options_mistaken :
    asked (fun _ => true) "--port" ["--port=9090"] = some "9090" ∧
    getOpt "--port" ["--port=9090"] = "\n" ∧
    getOpt "--port" ["--pid-file=/run/gateway.pid"] = "/run/gateway.pid\n" ∧
    asked (fun _ => true) "--pid-file" ["--pid-file", "/run/gateway.pid"] =
      some "/run/gateway.pid" ∧
    getOpt "--pid-file" ["--pid-file", "/run/gateway.pid"] = "\n" ∧
    Probes "http://localhost:/run/gateway.pid/health"
      (doStatus default ["--port=9090", "--pid-file=/run/gateway.pid"]) ∧
    ¬∀ key args, Answers (fun _ => true) key args := by
  refine ⟨by decide, by decide, by decide, by decide, by decide, ?_, fun answers => ?_⟩
  · rw [doStatus_probes_iff]
    decide
  · exact absurd (answers "--port" ["--port=9090"]) (by unfold Answers; decide)

end FlussGateway.Lifecycle
