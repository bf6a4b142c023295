import PhoneBridge.Library.Run
import PhoneBridge.MessageCenter.DisplayAuth
import PhoneBridge.MessageCenter.Rest

/-!
# Token commands beside a running server

`--rotate-display-token` and `--revoke-display-token` run in a process of their own. It shares the
token file with the server and has a copy of the token of its own in memory. A run is any
interleaving of the steps of such processes with the display connections of one serving
message-center.
-/

namespace PhoneBridge.MessageCenter

open Library

/-- How far a token command has come. -/
inductive TokenStage
  /-- about to read the token file -/
  | loading
  /-- there is no token file, about to write a first one -/
  | generating
  /-- the temporary file has been written, for a first token or for a rotation -/
  | storing (token : String) (rotating : Bool)
  /-- the token has been loaded, about to rotate it -/
  | loaded (auth : DisplayAuth)
  /-- about to print the new token -/
  | rotated (auth : DisplayAuth)

/-- A running token command, with the tokens that had been issued when it was started. -/
structure TokenCommand where
  stage : TokenStage
  issuedBefore : List String

/-- A completed invocation with the token that it has printed. -/
structure Invocation where
  issuedBefore : List String
  token : String

/-- A serving message-center with the token commands on its config directory. -/
structure TokenRun where
  files : Files
  server : DisplayAuth
  commands : KeyMap Nat TokenCommand
  /-- tokens that some process has written, newest first -/
  issued : List String
  completed : List Invocation
  /-- tokens that display connections have been upgraded with -/
  displays : List String

/-- The server has loaded its token; no command has been started. -/
def TokenRun.serving (auth : DisplayAuth) (files : Files) : TokenRun where
  files := files
  server := auth
  commands := .empty
  issued := [auth.current]
  completed := []
  displays := []

inductive TokenLabel
  /-- a command is started -/
  | start (pid : Nat)
  | read (pid : Nat)
  | write (pid : Nat) (seed : TokenSeed)
  | rename (pid : Nat)
  /-- the command prints its token and is completed -/
  | print (pid : Nat)
  /-- the command ends early, by an error or a signal -/
  | exit (pid : Nat)
  /-- a display connects to the server -/
  | upgrade (sameHost : Bool) (token : String)

/-- Does the server upgrade a display connection? -/
def wsDisplayUpgrade (auth : DisplayAuth) (sameHost : Bool) (token : String) :
    Except Response Unit :=
  if sameHost then .ok ()
  else if ¬ auth.verify token then .error { status := 401, text := "bad display token" }
  else .ok ()

namespace TokenRun

variable (configDir : String)

def put (s : TokenRun) (pid : Nat) (command : TokenCommand) (stage : TokenStage) : TokenRun :=
  { s with commands := s.commands.insert pid { command with stage } }

def start (s : TokenRun) (pid : Nat) : Option TokenRun :=
  if s.commands.contains pid then none
  else some { s with commands := s.commands.insert pid {
    stage := .loading
    issuedBefore := s.issued } }

def exit (s : TokenRun) (pid : Nat) : TokenRun := { s with commands := s.commands.remove pid }

/-- The token that a process holds after loading or storing it. -/
def authOf (token : String) : DisplayAuth := { path := configDir ++ "/" ++ tokenFile, current := token }

/-- The first half of `load_or_generate`; an unusable token file ends the command. -/
def read (s : TokenRun) (pid : Nat) : Option TokenRun :=
  (s.commands.get pid).bind fun command ↦
    match command.stage with
    | .loading =>
      match DisplayAuth.readToken s.files configDir with
      | .error _ => some (s.exit pid)
      | .ok none => some (s.put pid command .generating)
      | .ok (some token) => some (s.put pid command (.loaded (authOf configDir token)))
    | _ => none

/-- A fresh token goes to the temporary file: a first one, or the one of a rotation. -/
def write (s : TokenRun) (pid : Nat) (seed : TokenSeed) : Option TokenRun :=
  let token := generateTokenString seed
  let written := { s with
    files := writeTemp s.files configDir token
    issued := token :: s.issued }
  (s.commands.get pid).bind fun command ↦
    match command.stage with
    | .generating => some (written.put pid command (.storing token false))
    | .loaded _ => some (written.put pid command (.storing token true))
    | _ => none

/-- The temporary file takes the place of the token file; a missing one ends the command. -/
def rename (s : TokenRun) (pid : Nat) : Option TokenRun :=
  (s.commands.get pid).bind fun command ↦
    match command.stage with
    | .storing token rotating =>
      match renameTemp s.files configDir with
      | none => some (s.exit pid)
      | some files =>
        let auth := authOf configDir token
        some ({ s with files }.put pid command (if rotating then .rotated auth else .loaded auth))
    | _ => none

/-- The command prints the token in its own memory. -/
def print (s : TokenRun) (pid : Nat) : Option TokenRun :=
  (s.commands.get pid).bind fun command ↦
    match command.stage with
    | .rotated auth => some { s.exit pid with
        completed := { issuedBefore := command.issuedBefore, token := auth.current } :: s.completed }
    | _ => none

def upgrade (s : TokenRun) (sameHost : Bool) (token : String) : TokenRun :=
  match wsDisplayUpgrade s.server sameHost token with
  | .ok () => { s with displays := token :: s.displays }
  | .error _ => s

def step (s : TokenRun) : TokenLabel → Option TokenRun
  | .start pid => s.start pid
  | .read pid => s.read configDir pid
  | .write pid seed => s.write configDir pid seed
  | .rename pid => s.rename configDir pid
  | .print pid => s.print pid
  | .exit pid => some (s.exit pid)
  | .upgrade sameHost token => some (s.upgrade sameHost token)

/-- The server admits no token that was issued before a completed invocation, and it admits the one
that the invocation has printed, as long as no newer one has been issued. -/
def Revokes (s : TokenRun) : Prop :=
  ∀ invocation ∈ s.completed,
    (∀ token ∈ invocation.issuedBefore, s.server.verify token = false) ∧
    (s.issued.head? = some invocation.token → s.server.verify invocation.token = true)

/-- The step completes an invocation. -/
def Completes (s : TokenRun) (label : TokenLabel) : Prop :=
  ∃ pid command auth, label = .print pid ∧ s.commands.get pid = some command ∧
    command.stage = .rotated auth

/-! ## What a step leaves alone -/

/-- A step that completes nothing: the server keeps its token, and every command the tokens that had
been issued when it was started. -/
structure Quiet (s t : TokenRun) : Prop where
  server : t.server = s.server
  completed : t.completed = s.completed
  issued : ∀ token ∈ s.issued, token ∈ t.issued
  commands : ∀ pid command, t.commands.get pid = some command →
    command.issuedBefore = s.issued ∨
      ∃ before, s.commands.get pid = some before ∧ command.issuedBefore = before.issuedBefore

/-- A command goes on to another stage. -/
theorem quiet_put {s : TokenRun} {pid : Nat} {command : TokenCommand}
    (hcommand : s.commands.get pid = some command) {files : Files} {issued : List String}
    (hissued : ∀ token ∈ s.issued, token ∈ issued) (stage : TokenStage) :
    Quiet s ({ s with files, issued }.put pid command stage) where
  server := rfl
  completed := rfl
  issued := hissued
  commands := by
    intro other after hafter
    apply Or.inr
    by_cases hother : other = pid
    · subst hother
      have hsame : { command with stage } = after :=
        Option.some.inj ((KeyMap.get_insert_self _ _ _).symm.trans hafter)
      exact ⟨command, hcommand, by rw [← hsame]⟩
    · exact ⟨after, (KeyMap.get_insert_of_ne _ _ hother).symm.trans hafter, rfl⟩

/-- A command ends. -/
theorem quiet_exit (s : TokenRun) (pid : Nat) : Quiet s (s.exit pid) where
  server := rfl
  completed := rfl
  issued := fun _ h ↦ h
  commands := by
    intro other after hafter
    apply Or.inr
    by_cases hother : other = pid
    · subst hother
      have hnone := (KeyMap.get_remove_self s.commands other).symm.trans hafter
      cases hnone
    · exact ⟨after, (KeyMap.get_remove_of_ne _ hother).symm.trans hafter, rfl⟩

/-- Every step that does not complete an invocation is quiet. -/
theorem quiet_of_not_completes {s t : TokenRun} {label : TokenLabel}
    (hlabel : ¬ Completes s label) (hstep : step configDir s label = some t) : Quiet s t := by
  have hkeep : ∀ token ∈ s.issued, token ∈ s.issued := fun _ h ↦ h
  cases label with
  | start pid =>
    simp only [step, start] at hstep
    split at hstep
    · cases hstep
    · cases hstep
      refine { server := rfl, completed := rfl, issued := hkeep, commands := ?_ }
      intro other after hafter
      by_cases hother : other = pid
      · subst hother
        have hsame := Option.some.inj ((KeyMap.get_insert_self _ _ _).symm.trans hafter)
        exact .inl (by rw [← hsame])
      · exact .inr ⟨after, (KeyMap.get_insert_of_ne _ _ hother).symm.trans hafter, rfl⟩
  | read pid =>
    obtain ⟨command, hcommand, hread⟩ := Option.bind_eq_some_iff.mp hstep
    split at hread
    · split at hread
      · cases hread
        exact quiet_exit s pid
      · cases hread
        exact quiet_put hcommand hkeep _
      · cases hread
        exact quiet_put hcommand hkeep _
    · cases hread
  | write pid seed =>
    obtain ⟨command, hcommand, hwrite⟩ := Option.bind_eq_some_iff.mp hstep
    have hmore : ∀ token ∈ s.issued, token ∈ generateTokenString seed :: s.issued :=
      fun token h ↦ List.mem_cons_of_mem _ h
    split at hwrite
    · cases hwrite
      exact quiet_put hcommand hmore _
    · cases hwrite
      exact quiet_put hcommand hmore _
    · cases hwrite
  | rename pid =>
    obtain ⟨command, hcommand, hrename⟩ := Option.bind_eq_some_iff.mp hstep
    split at hrename
    · split at hrename
      · cases hrename
        exact quiet_exit s pid
      · cases hrename
        exact quiet_put hcommand hkeep _
    · cases hrename
  | print pid =>
    obtain ⟨command, hcommand, hprint⟩ := Option.bind_eq_some_iff.mp hstep
    split at hprint
    · next auth hstage => exact absurd ⟨pid, command, auth, rfl, hcommand, hstage⟩ hlabel
    · cases hprint
  | exit pid =>
    cases hstep
    exact quiet_exit s pid
  | upgrade sameHost token =>
    cases hstep
    have hquiet : ∀ displays, Quiet s { s with displays } := fun displays ↦
      { server := rfl, completed := rfl, issued := hkeep,
        commands := fun other after hafter ↦ .inr ⟨after, hafter, rfl⟩ }
    unfold upgrade
    split
    · exact hquiet _
    · exact hquiet s.displays

/-! ## Runs -/

/-- Nothing has been completed, and the server's token had been issued before every command was
started. -/
structure KnownToAll (s : TokenRun) : Prop where
  completed : s.completed = []
  issued : s.server.current ∈ s.issued
  commands : ∀ pid command, s.commands.get pid = some command →
    s.server.current ∈ command.issuedBefore

theorem KnownToAll.quiet {s t : TokenRun} (h : KnownToAll s) (hquiet : Quiet s t) :
    KnownToAll t where
  completed := hquiet.completed.trans h.completed
  issued := by
    rw [hquiet.server]
    exact hquiet.issued _ h.issued
  commands := by
    intro pid command hcommand
    rw [hquiet.server]
    rcases hquiet.commands pid command hcommand with hnew | ⟨before, hbefore, hsame⟩
    · rw [hnew]
      exact h.issued
    · rw [hsame]
      exact h.commands pid before hbefore

/-- A completed invocation leaves the server with a token that was issued before it. -/
theorem KnownToAll.completes {s : TokenRun} (h : KnownToAll s) {label : TokenLabel}
    (hlabel : Completes s label) : ∃ t, step configDir s label = some t ∧ ¬ Revokes t := by
  obtain ⟨pid, command, auth, rfl, hcommand, hstage⟩ := hlabel
  have hprint : s.print pid = some { s.exit pid with completed :=
      { issuedBefore := command.issuedBefore, token := auth.current } :: s.completed } := by
    simp [print, hcommand, hstage]
  refine ⟨_, hprint, ?_⟩
  intro hrevokes
  have hrejected := (hrevokes _ List.mem_cons_self).1 s.server.current
    (h.commands pid command hcommand)
  have hadmitted : s.server.verify s.server.current = true := DisplayAuth.verify_iff.mpr rfl
  exact absurd (hadmitted.symm.trans hrejected) (by decide)

/-- A running server revokes tokens in exactly those runs in which no command completes. -/
theorem token_rotation_revokes_iff (auth : DisplayAuth) (files : Files) (labels : List TokenLabel) :
    Run.Always (step configDir) Revokes (serving auth files) labels ↔
      Run.Throughout (step configDir) (fun s label ↦ ¬ Completes s label) (serving auth files)
        labels := by
  apply Run.always_iff_throughout KnownToAll
  · intro s h invocation hinvocation
    rw [h.completed] at hinvocation
    cases hinvocation
  · exact fun s label t h hlabel hstep ↦ h.quiet (quiet_of_not_completes configDir hlabel hstep)
  · exact fun s label h hlabel ↦ h.completes configDir (not_not.mp hlabel)
  · exact {
      completed := rfl
      issued := List.mem_singleton_self _
      commands := by
        intro pid command hcommand
        cases hcommand }

/-! ## One rotation -/

/-- A token of equal bytes. -/
def sampleSeed (byte : UInt8) : TokenSeed := ⟨List.replicate 32 byte, List.length_replicate⟩

def sampleConfigDir : String := "/home/user/.config/phonebridge"

/-- The token file of a server. -/
def sampleFiles : Files :=
  KeyMap.empty.insert (sampleConfigDir ++ "/" ++ tokenFile) (generateTokenString (sampleSeed 0))

/-- The server that has loaded it. -/
def sampleServer : DisplayAuth := authOf sampleConfigDir (generateTokenString (sampleSeed 0))

/-- One command rotates the token. -/
def sampleRotation : List TokenLabel :=
  [.start 1, .read 1, .write 1 (sampleSeed 1), .rename 1, .print 1]

theorem read_sample {s : TokenRun} (hfiles : s.files = sampleFiles) {issuedBefore : List String}
    (hcommand : s.commands.get 1 = some { stage := .loading, issuedBefore }) :
    s.read sampleConfigDir 1 =
      some (s.put 1 { stage := .loading, issuedBefore } (.loaded sampleServer)) := by
  have hread : DisplayAuth.readToken s.files sampleConfigDir =
      .ok (some (generateTokenString (sampleSeed 0))) := by
    apply DisplayAuth.readToken_of_generated
    rw [hfiles]
    exact KeyMap.get_insert_self _ _ _
  simp [read, hcommand, hread, sampleServer]

/-- The running server goes on with the token that has been rotated away. -/
theorem rotation_leaves_old_token : ¬ ∀ (configDir : String) (auth : DisplayAuth) (files : Files)
    (labels : List TokenLabel),
    Run.Always (step configDir) Revokes (serving auth files) labels := by
  intro h
  have hnone := (token_rotation_revokes_iff sampleConfigDir sampleServer sampleFiles
    sampleRotation).mp (h _ _ _ _)
  have hstarted := hnone.2 _ rfl
  have hloaded := hstarted.2 _ (read_sample rfl rfl)
  have hwritten := hloaded.2 _ rfl
  have hrenamed := hwritten.2 _ rfl
  exact hrenamed.1 ⟨1, _, _, rfl, rfl, rfl⟩

end TokenRun

end PhoneBridge.MessageCenter
