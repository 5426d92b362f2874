import Reconciler.Program

/-!
# A provider that follows a script

A provider whose answers are laid down in advance, a list of replies for each method. Each call
takes the first reply off the list of its method; the last one stays and is given again and again. A
method without replies finds nothing.
-/

namespace Reconciler

/-- The replies of a provider, by the method. -/
abbrev Script := (m : Method) → List (Reply m.Answer)

/-- A provider that follows a script. -/
structure Scripted where
  /-- The replies to come. -/
  replies : Script := fun _ => []
  /-- The calls that were made, the latest first. -/
  journal : List (Region × Call) := []

namespace Scripted

/-- The failure of a call whose method has no replies. -/
def noScript (m : Method) : RemoteError := .notFound ("no script for " ++ m.path)

/-- The reply that a list of them gives next. The provider sleeps for its delay. -/
def nextReply (m : Method) : List (Reply m.Answer) → Reply m.Answer
  | [] => { outcome := .error (noScript m) }
  | r :: _ => { r with delay := min r.delay longestSleep }

/-- Lays down the replies of one method. -/
def setReplies (s : Scripted) (m : Method) (rs : List (Reply m.Answer)) : Scripted :=
  { s with replies := fun n => if h : m = n then h ▸ rs else s.replies n }

/-- Takes the next reply of a method off its list, unless it is the last. -/
def useReply (s : Scripted) (m : Method) : Scripted :=
  match s.replies m with
  | _ :: r :: rest => s.setReplies m (r :: rest)
  | _ => s

/-- The script as a provider. -/
def provider : Provider Scripted where
  answer s _ region c :=
    (nextReply c.method (s.replies c.method),
      { s.useReply c.method with journal := (region, c) :: s.journal })

end Scripted

end Reconciler
