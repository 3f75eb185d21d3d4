import Mustache.Value.Buffer

/-!
# Members

How a name is looked up in a value. Mappings answer for their keys; dates, buffers and objects for
their public members; every other value has none, streams included, as the iterators of collections
have none. A failing property is a missing one exactly when it fails for want of an attribute. What
a look-up makes is told from all else by its origin.

Of the members of days and moments, those are left out that read the clock or the zone of the
surroundings, and those that give a value of another kind: a span, a time of day, a record.
-/

namespace Mustache.Value

/-- The value a mapping holds for a text key. -/
def lookup? (name : String) : List (Value × Value) → Option Value
  | [] => none
  | (.text key, value) :: rest => if key = name then some value else lookup? name rest
  | _ :: rest => lookup? name rest

/-- The members of a day that have an answer. -/
def dateMembers (d : Date) : List (String × Value) :=
  [("year", .int d.year), ("month", .int d.month), ("day", .int d.day),
   ("isoformat", .text d.text), ("weekday", .int d.weekday), ("isoweekday", .int (d.weekday + 1)),
   ("toordinal", .int d.number), ("ctime", .text (d.longText "00:00:00")), ("replace", .date d),
   ("min", .date .earliest), ("max", .date .latest)]

/-- Methods of a day that cannot do without an argument. -/
def dateNeedy : List String :=
  ["fromisocalendar", "fromisoformat", "fromordinal", "fromtimestamp", "strftime"]

/-- The members of a moment that have an answer. -/
def momentMembers (m : Moment) : List (String × Value) :=
  [("hour", .int m.hour), ("minute", .int m.minute), ("second", .int m.second),
   ("microsecond", .int m.microsecond), ("fold", .int 0), ("isoformat", .text (m.joined "T")),
   ("ctime", .text (m.date.longText m.clock)), ("date", .date m.date), ("replace", .moment m),
   ("min", .moment .earliest), ("max", .moment .latest),
   ("tzname", (m.offset.map fun o => text o.name).getD .null), ("dst", .null)]
    ++ dateMembers m.date

/-- Methods of a moment that cannot do without an argument. -/
def momentNeedy : List String := ["combine", "strptime", "utcfromtimestamp"] ++ dateNeedy

/-- Whether a name is kept from templates in everything but mappings. -/
def isPrivate (name : String) : Bool := name.toList.head? == some '_'

/-- The answer an object gives for a name. -/
def ofMember : Option Member → Except Failure (Option Value)
  | none => .ok none
  | some (.value v) => .ok (some v)
  | some (.failingProperty failure) =>
    if failure.kind.hasTrait .attribute then .ok none else .error failure
  | some (.failingMethod failure) => .error failure

/-- The answer of a value with some members, of which the needy ones fail because templates give no
arguments. -/
def ofNamed (needy : List String) (members : List (String × Value)) (name : String) :
    Except Failure (Option Value) :=
  if isPrivate name then .ok none
  else if needy.contains name then .error ⟨.missingArgument, ""⟩
  else .ok (members.lookup name)

/-- The member of a value with a name, if it has one. -/
def member? (origin : Nat) (v : Value) (name : String) : Except Failure (Option Value) :=
  match v with
  | .map entries | .view entries _ => .ok (lookup? name entries)
  | .buffer _ content =>
    if isPrivate name then .ok none else ofMember (Buffer.member? origin content name)
  | .date d => ofNamed dateNeedy (dateMembers d) name
  | .moment m => ofNamed momentNeedy (momentMembers m) name
  | .object members _ _ _ =>
    if isPrivate name then .ok none else ofMember (members.lookup name)
  | _ => .ok none

end Mustache.Value
