import LibFtp.App.CmdlineInterface
import LibFtp.App.FileSafety
import LibFtp.Client.ControlOnly

/-! How the program ends. It prints the errors of its commands and goes on; what ends it is the
exit command, the end of the input, or an error of the local files. -/

namespace LibFtp

open Effect

/-- The line that the user has typed last, unless the input has ended behind it. -/
def lastLine (line : Option Bytes) : BoundaryEvent → Option Bytes
  | ⟨.consoleRead _, answer⟩ => answer
  | _ => line

private abbrev lastLines : Monitor boundary (Option Bytes) := Monitor.fold lastLine

private theorem untyped_controlling : Client.Controlling (Program.Ignored lastLine) where
  link layer query link := by
    intro line answer
    cases link with
    | closing closing => cases closing <;> rfl
    | _ => rfl
  written _ _ _ _ := rfl
  missed _ _ _ _ := rfl
  requested _ _ _ _ := rfl
  heard _ _ _ _ := rfl
  switched _ _ _ := rfl
  greeted _ _ _ _ _ := rfl

namespace CommandHandler

variable {kept : Option Bytes → Prop} {fuel : Nat}

private theorem onClient_untyped {program : Method Client Value}
    (asks : program.Asks (Program.Ignored lastLine)) :
    (onClient program).Keeps lastLines (fun _ => kept) (fun _ => kept) := by
  have zoomed : (Program.zoom CommandHandler.ftpClient (fun _ ftpClient => ⟨ftpClient⟩) program).Keeps
      lastLines (fun _ => kept) (fun _ => kept) := .zoom (fun _ => asks.ignored) fun _ => rfl
  exact zoomed.recover (fun _ => Program.Keeps.raise _ fun _ _ => id) fun _ _ => id

/-- The exit command asks the user nothing and raises no error, whatever the server does. -/
private theorem exit_untyped (args : List Bytes) (handler : CommandHandler) (line : Option Bytes)
    (holds : kept line) :
    (handle .exit args).wp lastLines fuel (fun _ _ last => kept last)
      (fun stop _ _ => stop = .spinning) handler line := by
  have disconnects : (onClient (Client.invoke (.disconnect true))).Keeps lastLines (fun _ => kept)
      (fun _ => kept) := onClient_untyped (untyped_controlling.invoke (.disconnect true) rfl)
  have leaves : Program.Keeps lastLines (fun _ => kept) (fun _ => kept)
      (do if (← Program.get).ftpClient.control.isConnected then run (.disconnect true)) :=
    .bind .get fun _ => .ite (.bind disconnects fun _ => .pure _) (.pure _)
  simp only [handle, dispatch, exit, Program.wp_recover, Program.wp_pure]
  refine Program.wp_mono (leaves fuel handler line holds) (fun _ _ _ => id) ?_
  intro stop last after kept
  cases stop with
  | raised error => exact kept
  | spinning => exact trivial

end CommandHandler

namespace CmdlineInterface

open CommandHandler

variable (iequals : Bytes → Bytes → Bool) (message : ErrorCode → Bytes) {fuel : Nat}

/-- The user has typed the exit command last. -/
def SaidExit (line : Option Bytes) : Prop :=
  ∃ typed args, line = some typed ∧ CommandParser.parseCommand iequals typed = .ok (.exit, args)

private theorem round_ends (handler : CommandHandler) (line : Option Bytes) :
    (round iequals).wp lastLines fuel (fun goesOn _ last => goesOn = false → SaidExit iequals last)
      (fun _ _ _ => True) handler line := by
  simp only [round, Program.wp_bind]
  refine wp_readLine (fun typed after step => ?_) fun _ _ => trivial
  have step : after = some typed := step
  subst step
  by_cases empty : typed = []
  · rw [if_pos empty]
    exact fun never => Bool.noConfusion never
  · rw [if_neg empty, Program.wp_bind]
    unfold parseCommand
    cases parsed : CommandParser.parseCommand iequals typed with
    | error error => exact trivial
    | ok result =>
      obtain ⟨command, args⟩ := result
      simp only [Program.wp_pure, Program.wp_bind]
      by_cases leaves : command = .exit
      · subst leaves
        have said : SaidExit iequals (some typed) := ⟨typed, args, rfl, parsed⟩
        exact Program.wp_mono (exit_untyped args handler (some typed) said)
          (fun _ _ _ said _ => said) fun _ _ _ _ => trivial
      · refine Program.wp_always _ (fun _ _ _ stops => ?_) fun _ _ _ => trivial
        exact absurd stops (by simp [leaves])

private theorem rounds_end (steps : Nat) (handler : CommandHandler) (line : Option Bytes) :
    (rounds iequals message steps).wp lastLines fuel (fun _ _ last => SaidExit iequals last)
      (fun stop _ _ => ∀ error, stop = .raised error → ¬ Printed error) handler line := by
  induction steps generalizing handler line with
  | zero =>
    intro _ never
    cases never
  | succ steps ih =>
    simp only [rounds, Program.wp_bind, Program.wp_recover, Program.wp_ite, Program.wp_pure]
    refine Program.wp_mono (round_ends iequals handler line) ?_ ?_
    · intro goesOn handler last ends
      cases goesOn with
      | true => exact ih handler last
      | false => exact ends rfl
    · intro stop handler last _
      cases stop with
      | spinning =>
        intro _ never
        cases never
      | raised error =>
        cases error with
        | filesystem | istreamFailure =>
          rintro _ same
          cases same
          exact id
        | cmdline fmt args =>
          simp only [report, CommandHandler.ask, Program.wp_bind, Program.wp_pure]
          exact fun _ after _ => ih handler after
        | ftp error =>
          simp only [report, CommandHandler.ask, Program.wp_bind, Program.wp_pure]
          exact fun _ after _ => ih handler after

private abbrev lastEvents : Monitor boundary (Option BoundaryEvent) :=
  Monitor.fold fun _ event => some event

private theorem foldl_last (events : List BoundaryEvent) :
    events.foldl (fun _ event => some event) none = events.getLast? := by
  induction events using List.reverseRecOn with
  | nil => rfl
  | append_singleton events event => rw [List.foldl_append, List.getLast?_concat]; rfl

/-- An error that the loop does not print was made by the last answer. -/
private def Blamed (stop : Stop AppError) (_ : CommandHandler) (last : Option BoundaryEvent) : Prop :=
  ∀ error, stop = .raised error → Printed error ∨ ∃ event, last = some event ∧ Breaks event error

private theorem blamed_bears : Bears lastEvents fuel (fun _ _ => True) Blamed where
  raised _ _ _ printed _ _ same := .inl (Stop.raised.inj same ▸ printed)
  left _ _ _ _ := trivial
  breaks event _ _ _ _ breaks _ step _ same := .inr ⟨event, step, Stop.raised.inj same ▸ breaks⟩
  spun _ _ _ _ never := nomatch never
  asked _ _ _ _ _ _ _ _ := trivial
  performed operation handler _ _ _ := by
    refine Program.wp_always _ (fun _ _ _ => trivial) fun stop _ _ error same => ?_
    cases stop with
    | raised error =>
      cases same
      exact .inl trivial
    | spinning => cases same

/-- The program outlives every error of the library and every wrong command: it returns behind
the exit command only, and an error that ends it is that of the last call, which has found no
more input or was one for the local files. -/
theorem run_ends {World : Type} (host : Host boundary World) (fuel : Nat) (handler : CommandHandler)
    (world : World) :
    let ran := (run iequals message).run host fuel handler world
    (ran.value.1.isOk = true → SaidExit iequals (ran.events.foldl lastLine none)) ∧
      ∀ error, ran.value.1 = .error (.raised error) →
        ∃ event, ran.events.getLast? = some event ∧ Breaks event error := by
  intro ran
  have ends : (run iequals message).wp lastLines fuel (fun _ _ last => SaidExit iequals last)
      (fun stop _ _ => ∀ error, stop = .raised error → ¬ Printed error) handler none := by
    rw [run, Program.wp_loop]
    exact rounds_end iequals message fuel handler none
  have bears : Bears lastEvents fuel (fun _ _ => True) Blamed := blamed_bears
  have gets (args : List Bytes) := bears.get_holds
    (fun _ _ _ _ _ both _ _ _ => ⟨trivial, both.2⟩) args
  have blamed := bears.program_holds gets iequals message handler none ⟨trivial, trivial⟩
  constructor
  · intro isOk
    rcases Program.wp_run ends host world (Monitor.fold_drives lastLine none ran.events) with
      ⟨_, _, said⟩ | ⟨stop, stopped, _⟩
    · exact said
    · have isOk : (ran.value.1).isOk = true := isOk
      rw [show ran.value.1 = .error stop from stopped] at isOk
      cases isOk
  · intro error raised
    have unprinted : ¬ Printed error := by
      rcases Program.wp_run ends host world (Monitor.fold_drives lastLine none ran.events) with
        ⟨_, returned, _⟩ | ⟨stop, stopped, only⟩
      · cases returned.symm.trans raised
      · exact only error (Except.error.inj (stopped.symm.trans raised))
    rcases Program.wp_run blamed host world (Monitor.fold_drives _ none ran.events) with
      ⟨_, returned, _⟩ | ⟨stop, stopped, blamed⟩
    · cases returned.symm.trans raised
    · rw [foldl_last] at blamed
      exact (blamed error (Except.error.inj (stopped.symm.trans raised))).resolve_left unprinted

end CmdlineInterface

end LibFtp
