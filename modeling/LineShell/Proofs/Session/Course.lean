import LineShell.Proofs.Execution
import LineShell.Session

namespace LineShell.Session

/-- What can be done with a session, variables only being bound and never removed. -/
inductive Action
  | run (line : Text)
  | reset
  | set (name value : Text)

def act (session : Session) : Action → Session
  | .run line => (session.run line).2
  | .reset => session.reset
  | .set name value => session.set name value

def after (session : Session) (actions : List Action) : Session :=
  actions.foldl act session

def afterLines (session : Session) (lines : List Text) : Session :=
  session.after (lines.map .run)

@[simp] theorem after_nil (session : Session) : session.after [] = session := rfl

theorem after_append (session : Session) (first second : List Action) :
    session.after (first ++ second) = (session.after first).after second :=
  List.foldl_append

theorem after_concat (session : Session) (actions : List Action) (action : Action) :
    session.after (actions ++ [action]) = (session.after actions).act action :=
  session.after_append actions [action]

theorem afterLines_append (session : Session) (first second : List Text) :
    session.afterLines (first ++ second) = (session.afterLines first).afterLines second := by
  rw [afterLines, List.map_append, after_append]
  rfl

theorem afterLines_concat (session : Session) (lines : List Text) (line : Text) :
    session.afterLines (lines ++ [line]) = ((session.afterLines lines).run line).2 :=
  afterLines_append session lines [line]

theorem state_run (session : Session) (line : Text) :
    (session.run line).2.state =
      (runLine session.settings.registry session.state line).state := by
  unfold run
  dsimp only
  split <;> rfl

theorem history_run (session : Session) (line : Text) :
    (session.run line).2.state.history =
      if Text.allBlank line then session.state.history
      else History.add session.state.history line := by
  rw [state_run, history_runLine]

end LineShell.Session
