import Embed.Page.Value
/-!
# What happens on a page

The steps that a page can take: events that fire on it, changes of its own, and calls of its host.
A page can also be given functions, each with a script of further steps that run when the function
is called, so steps nest.
-/

namespace Embed

/-- What an event fires on, or a call is made on. -/
inductive Target where
  /-- The document. -/
  | document
  /-- The window. -/
  | window
  /-- The element of an id. -/
  | element (id : String)
  deriving DecidableEq, Repr

/-- The kind of an event. -/
inductive EventKind where
  /-- A module's load begins. -/
  | loadStart
  /-- A module's load has come further. -/
  | progress
  /-- A module's load is complete. -/
  | load
  /-- A module's load failed. -/
  | error
  /-- A module stopped unexpectedly. -/
  | crash
  /-- A module sent a message. -/
  | message
  /-- The document entered or left fullscreen. -/
  | fullscreenChange
  /-- The window changed its size. -/
  | resize
  /-- A kind that no host listens for. -/
  | other (name : String)
  deriving DecidableEq, Repr

/-- The name under which an event fires. -/
def EventKind.name : EventKind → String
  | .loadStart => "loadstart"
  | .progress => "progress"
  | .load => "load"
  | .error => "error"
  | .crash => "crash"
  | .message => "message"
  | .fullscreenChange => "fullscreenchange"
  | .resize => "resize"
  | .other name => name

/-- What an event carries. Its kind does not decide that. -/
inductive PageEvent where
  /-- Nothing. -/
  | plain
  /-- Byte counts, and whether they mean anything. -/
  | progress (computable : Bool) (loaded total : Float)
  /-- Data. -/
  | message (data : PageValue)

/-- A call that a page can make throw. -/
inductive PageCall where
  /-- Adding a listener. -/
  | add (kind : EventKind)
  /-- Removing a listener. -/
  | remove (kind : EventKind)
  /-- Changing the style. -/
  | style
  /-- Reading a property. -/
  | get (name : String)
  /-- Reading the size of the window. -/
  | inner
  deriving DecidableEq, Repr

/-- A call of the host. -/
inductive HostCall where
  /-- Attach the element of an id, already at hand. -/
  | attach (id : String)
  /-- Look up the element of an id and attach it. -/
  | attachById (id : String)
  /-- Detach the attached element. -/
  | detach
  /-- Give up the host. -/
  | drop
  /-- Take data as if it came on the message channel. -/
  | handleMessage (data : PageValue)
  /-- Post a value to the module. -/
  | postMessage (payload : PageValue)
  /-- Post a command to the module, with a value given as JSON. -/
  | postCommand (kind : String) (json : Option String)
  /-- Request the platform's fullscreen. -/
  | requestFullscreen
  /-- Fill the window without the platform. -/
  | enterSoft
  /-- No longer fill the window without the platform. -/
  | leaveSoft
  /-- Ask whether the window is filled without the platform. -/
  | isSoft
  /-- Ask for the state of the module. -/
  | stateText
  /-- Ask for counters, canvas and viewport. -/
  | statsText
  /-- Report outstanding dependencies. -/
  | dependencies (left : UInt32)
  /-- Report a status line. -/
  | status (text : String)
  /-- Print a line. -/
  | print (text : String)
  /-- Print a line of errors. -/
  | printError (text : String)
  /-- Report that the load begins. -/
  | loadStart
  /-- Report how far the load has come. -/
  | progress (computable : Bool) (loaded total : Float)
  /-- Report that the load is complete. -/
  | load
  /-- Report that the load failed. -/
  | error (message : String)
  /-- Report that the module stopped unexpectedly. -/
  | crash

/-- What a page's function does: it takes steps, and then it may throw. -/
structure Script (Step : Type) where
  /-- The steps. -/
  steps : List Step := []
  /-- What it throws in the end. -/
  raised : Option PageValue := none

/-- A step on a page. -/
inductive Step where
  /-- An event fires. -/
  | fire (target : Target) (kind : EventKind) (event : PageEvent)
  /-- A property of an element is set. -/
  | setProperty (id name : String) (value : PageValue)
  /-- A call throws from now on. -/
  | setThrow (target : Target) (call : PageCall) (value : PageValue)
  /-- An element gets a function that takes posted messages. -/
  | onPostMessage (id : String) (script : Script Step)
  /-- An element gets a function that takes requests for fullscreen. -/
  | onRequestFullscreen (id : String) (script : Script Step)
  /-- The element that is fullscreen changes. -/
  | setFullscreenElement (id : Option String)
  /-- The window reports another size. -/
  | setWindowSize (width height : PageValue)
  /-- The window is no longer to be had. -/
  | removeWindow
  /-- The host is called. -/
  | call (call : HostCall)

end Embed
