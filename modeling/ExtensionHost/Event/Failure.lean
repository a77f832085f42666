/-
**How the code of a subscriber fails, and how the failure is told.**

* `Report`: an error that a handler returns, with the contexts added on its way.
* `Payload`: what a panic carries.
* `Failure`, `HandlerError`: a failed delivery, alone and with subscriber and event type.
-/

import ExtensionHost.EventType

namespace ExtensionHost

/-- An error with the contexts that were added to it, the outermost last. -/
structure Report where
  /-- The error at the root. -/
  root : String
  /-- The contexts, in the order in which they were added. -/
  contexts : List String := []
deriving DecidableEq, Repr

/-- The contexts from the outermost inwards and then the root, with colons between. -/
def Report.text (report : Report) : String :=
  ": ".intercalate (report.contexts.reverse ++ [report.root])

/-- What a panic carries. -/
inductive Payload where
  /-- A message. -/
  | text (message : String)
  /-- A value without a text. -/
  | other
deriving DecidableEq, Repr

/-- The payload as text. -/
def Payload.message : Payload → String
  | text message => message
  | other => "non-string panic payload"

/-- Why a delivery failed. -/
inductive Failure where
  /-- The handler returned an error. -/
  | returned (report : Report)
  /-- The handler or one of the predicates before it panicked. -/
  | panicked (payload : Payload)
deriving DecidableEq, Repr

namespace Failure

/-- The text of the failure. -/
def message : Failure → String
  | returned report => report.text
  | panicked payload => "panicked: " ++ payload.message

/-- Whether the failure is a panic. -/
def isPanic : Failure → Bool
  | returned _ => false
  | panicked _ => true

end Failure

/-- A failed delivery as the dispatch reports it. -/
structure HandlerError where
  /-- The name and registration number of the subscriber. -/
  subscriber : String
  /-- The type of the event when its dispatch began. -/
  eventType : EventType
  /-- What went wrong. -/
  failure : Failure
deriving DecidableEq, Repr

/-- The text of the error. -/
def HandlerError.message (error : HandlerError) : String :=
  "subscriber '" ++ error.subscriber ++ "' failed while handling '" ++ error.eventType.name ++
    "': " ++ error.failure.message

end ExtensionHost
