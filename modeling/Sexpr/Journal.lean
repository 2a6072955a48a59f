import Sexpr.Journal.Layout

/-!
The journal: where the records of the program go. Records that are severe enough for their logger
are handed to all handlers of the root logger; a handler writes those that are severe enough for it
to a stream. Each configuration opens a stream of its own and puts a handler for it in place of the
one that an earlier configuration has left.
-/

namespace Sexpr

/-- The stream that a handler writes to, counted from the first one that was opened, and how records
are written there. -/
structure Outlet where
  stream : Nat
  layout : Layout

/-- A taker of records: its name, if it has one, the least severity that it takes, and its outlet,
without which it writes nothing. -/
structure Handler where
  name : Option String
  threshold : Severity
  outlet : Option Outlet

namespace Handler

def ownName : String := "lispish-cli"

def isOwn (handler : Handler) : Bool :=
  handler.name == some ownName

def null : Handler :=
  ⟨none, .unset, none⟩

def own (threshold : Severity) (stream : Nat) (layout : Layout) : Handler :=
  ⟨some ownName, threshold, some ⟨stream, layout⟩⟩

end Handler

/-- The least severity that the root logger passes on, its handlers, and what has been written to
each stream, the oldest one first. -/
structure Journal where
  threshold : Severity
  handlers : List Handler
  texts : List String

namespace Journal

def silent : Journal :=
  ⟨.unset, [.null], []⟩

def root : String := "lispish"

/-- Loggers are named below the root, or are the root itself. -/
def isBelowRoot (logger : String) : Bool :=
  logger == root || (root ++ ".").toList.isPrefixOf logger.toList

def streams (journal : Journal) : List String :=
  journal.texts.reverse

/-- The rank of the least severity that the root logger passes on; zero when it was not set. -/
def level (journal : Journal) : Nat :=
  journal.threshold.rank

def others (journal : Journal) : List Handler :=
  journal.handlers.filter (!·.isOwn)

def installed (journal : Journal) : List Handler :=
  journal.handlers.filter Handler.isOwn

def handler (journal : Journal) : Option Handler :=
  journal.installed.head?

def install (journal : Journal) (threshold : Severity) (layout : Layout) : Journal where
  threshold := threshold
  handlers := journal.others ++ [.own threshold journal.texts.length layout]
  texts := journal.texts ++ [""]

/-- A journal with a stream, to which records go if a threshold and a layout are given. -/
def ofOutlet : Option (Severity × Layout) → Journal
  | some (threshold, layout) => silent.install threshold layout
  | none => { silent with texts := [""] }

/-- Sends records from now on to a new stream. A format that is not taken leaves the new stream
without a handler. -/
def configure (journal : Journal) (memory : Nat) (verbose quiet : Bool) (format : String) :
    Except FormatFault Severity × Journal :=
  match Layout.ofFormat memory format with
  | .ok layout =>
    let threshold := Severity.threshold verbose quiet
    (.ok threshold, journal.install threshold layout)
  | .error fault =>
    (.error fault, { journal with handlers := journal.others, texts := journal.texts ++ [""] })

def reset (journal : Journal) : Journal :=
  { journal with threshold := .unset, handlers := journal.others }

/-- The least severity that loggers below the root pass on. Where none was set it is that of the
logger above the root. -/
def effective (journal : Journal) : Severity :=
  if journal.threshold = .unset then .warning else journal.threshold

def write (journal : Journal) (stream : Nat) (text : String) : Journal :=
  { journal with texts := journal.texts.modify stream (· ++ text) }

/-- Hands a record to a handler. It is written as a line of its own if the handler takes it and the
layout can be written with it. -/
def hand (site : Circumstances) (entry : Record) (journal : Journal) (handler : Handler) :
    Journal :=
  if handler.threshold.rank ≤ entry.severity.rank then
    match handler.outlet with
    | some outlet =>
      match entry.formatted outlet.layout site with
      | some text => journal.write outlet.stream (text ++ "\n")
      | none => journal
    | none => journal
  else journal

/-- Hands a record to every handler if its logger stands below the root and passes it on. -/
def log (journal : Journal) (site : Circumstances) (entry : Record) : Journal :=
  if isBelowRoot entry.logger && journal.effective.rank ≤ entry.severity.rank then
    journal.handlers.foldl (hand site entry) journal
  else journal

end Journal

end Sexpr
