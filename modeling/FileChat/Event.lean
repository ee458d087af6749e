/-!
# Events

What a session tells its observers. Each event carries what has changed, so an observer needs no
second look at the session.
-/

namespace FileChat

inductive Event where
  /-- A batch has been ingested. -/
  | artifactsIngested (loaded failed poolSize : Nat)
  /-- The pins have changed, and this many are there now. -/
  | pinsChanged (pinned : Nat)
  /-- The mode is now another, which is named. -/
  | modeChanged (mode : String)
  /-- A request has been composed and is about to be sent. -/
  | generationStarted (queryPreview : String) (contextTokens historyTurns : Nat)
  /-- A generation has come to an end of the status that is named. -/
  | generationFinished (status : String) (tokensOut durationMs : Nat)
  /-- Pool, pins and history have been cleared. -/
  | sessionReset
  deriving DecidableEq, Repr

end FileChat
