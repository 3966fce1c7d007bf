import Reactor.LogFilter.Directive

/-!
Filters of log events, written as directives with commas between them. A directive on a span, or
on the value of a field, says nothing about events outside of spans, and the runtime opens no span:
the other directives are the rules of the filter. A rule applies to an event if the target of the
event begins with the rule's and the event has all the rule's fields, of which the message is one.
Of the rules that apply, the one with the longest target decides.
-/

namespace Reactor

structure LogRule where
  -- None applies to every target.
  target : Option String
  fields : List String
  -- None lets nothing through.
  limit : Option Level
deriving DecidableEq

structure LogFilter where
  rules : List LogRule
deriving DecidableEq

def Directive.rule? (directive : Directive) : Option LogRule :=
  if directive.span.isNone && directive.fields.all (!·.hasValue) then
    some ⟨directive.target, directive.fields.map (·.name), directive.limit⟩
  else
    none

namespace LogRule

private def reach (rule : LogRule) : Nat := rule.target.elim 0 (·.length + 1)

/-- Whether `other` decides before `rule` where both apply: for its longer target, for its more
fields, for names of fields that come later, or for coming after an equal rule. -/
def yieldsTo (rule other : LogRule) : Bool :=
  if reach rule ≠ reach other then reach rule < reach other
  else if rule.fields.length ≠ other.fields.length then rule.fields.length < other.fields.length
  else !decide (other.fields < rule.fields)

def applies (rule : LogRule) (event : LogEvent) : Bool :=
  rule.target.all (fun target => target.toList.isPrefixOf event.target.path.toList)
    && rule.fields.all fun name => name == "message" || event.fields.any (·.1 == name)

end LogRule

namespace LogFilter

def upTo (level : Level) : LogFilter := ⟨[⟨none, [], some level⟩]⟩

/-- Reads a filter; one without directives lets through errors only. -/
def read? (text : String) : Option LogFilter := do
  let pieces := (text.splitOn ",").filter (!·.isEmpty)
  let directives ← pieces.mapM Directive.read?
  return if directives.isEmpty then upTo .error else ⟨directives.filterMap (·.rule?)⟩

/-- The filter that a text asks for; `info` where it cannot be read. -/
def ofText (text : String) : LogFilter := (read? text).getD (upTo .info)

def decisive (filter : LogFilter) (event : LogEvent) : Option LogRule :=
  (filter.rules.filter (·.applies event)).foldl
    (fun best rule =>
      match best with
      | some other => if other.yieldsTo rule then some rule else some other
      | none => some rule)
    none

def passes (filter : LogFilter) (event : LogEvent) : Bool :=
  match filter.decisive event with
  | some ⟨_, _, some limit⟩ => event.level.within limit
  | _ => false

end LogFilter

end Reactor
