import Costwise.Proofs.Alike
import Costwise.Report.Basic

/-!
# What Nested Definitions Have to Do With a Verdict

A definition inside a function is judged on its own, and the walk of the
function around it leaves it out. So the verdict on the function should not
depend on it. It depends on it all the same, in two ways. The text of a body is
looked through for signals, and the text of a nested definition is a part of
that text: a callback that maps an array gives the function around it the
signal of a mapping function. And a function that is the value of a key is left
out together with the key, while a class in its place is left out alone, so it
depends on the value whether a call in the key is counted.
`nested_definition_decides_growth` shows functions that are judged differently
because of either.

`verdict_eq_of_alike` says what is left once these two are ruled out. It takes
two functions of the same name whose bodies differ inside separate definitions
only, while every other node keeps its `isSeparate`. As long as the two texts show
the same signals, the two walks find the same things in the same order, and the
two records differ in nothing but the text itself.

## Main definitions

* `Record.withoutText`: A record without the text of the body.

## Theorems

* `Definition.record_eq_of_matched`: The same signals give the same record.
* `Definition.verdict_eq_of_alike`: The same signals give the same verdict.
* `nested_definition_decides_growth`: Other signals can give another one, and so can
  the same signals, if a nested definition is bound to a key or stands inside a name.
-/

namespace Costwise

open Syntax

/-- A record without the text of the body. No rule looks at the text itself. -/
def Record.withoutText (record : Record) : Record :=
  { record with bodyText := "" }

theorem Record.growth_withoutText (record : Record) :
    record.withoutText.growth = record.growth :=
  rfl

namespace Definition

/-- Functions of the same name whose bodies differ inside separate definitions only
    have the same record apart from the text, if the texts show the same signals. -/
theorem record_eq_of_matched {s t : Source} {d e : Definition} (hname : d.name = e.name)
    (hbody : Node.Matched s t d.body e.body)
    (hsignals : Signals.ofText (s.chars d.body) = Signals.ofText (t.chars e.body)) :
    (d.record s).map Record.withoutText = (e.record t).map Record.withoutText := by
  have hfold := (Node.Matched.agreement s t).foldlM_reached e.name
    (Signals.ofText (t.chars e.body)) hbody 0 {}
  rw [record_eq_foldlM, record_eq_foldlM, inside, inside, hname, hsignals, hfold]
  cases (e.body.reached 0).foldlM
      (Body.note ⟨t, e.name, Signals.ofText (t.chars e.body)⟩) {} with
  | error overflow => rfl
  | ok progress => rfl

/-- Take two functions of the same name, each in its own source, whose bodies differ
    inside separate definitions only. Those stay separate, and every other node keeps
    its `isSeparate`, also one that holds such a definition. What the walks read stands
    outside of separate definitions. If the two texts show the same signals, the
    functions get the same class, by records that differ in the text alone, or neither
    gets one. -/
theorem verdict_eq_of_alike {s t : Source} {d e : Definition} (hname : d.name = e.name)
    (hbody : d.body.alike s t e.body = true)
    (hsignals : Signals.ofText (s.chars d.body) = Signals.ofText (t.chars e.body))
    (hd : ∀ found ∈ d.visited, s.legible found = true)
    (he : ∀ found ∈ e.visited, t.legible found = true) :
    (d.verdict s).map (fun verdict => (verdict.growth, verdict.record.withoutText))
      = (e.verdict t).map fun verdict => (verdict.growth, verdict.record.withoutText) := by
  -- What is compared is a function of the record without its text.
  have hview : ∀ (source : Source) (definition : Definition),
      (definition.verdict source).map (fun verdict => (verdict.growth, verdict.record.withoutText))
        = ((definition.record source).map Record.withoutText).map
          fun record => (record.growth, record) := by
    intro source definition
    rw [verdict]
    cases definition.record source with
    | error overflow => rfl
    | ok record =>
        simp only [Except.map, record.growth_withoutText]
  rw [hview, hview, record_eq_of_matched hname ⟨hbody, hd, he⟩ hsignals]

end Definition

namespace NestedCallback

/-- A function that calls itself, `const f = () => f(…)`, from its text and its last
    byte, with nodes below the name that is called and below the arguments. -/
def calling (text : String) (stop : Nat) (name passed : List Node) : Program where
  source := .ofString text
  root :=
    ⟨{ kind := .declarator, start := 6, stop },
      [⟨{ index := 1, kind := .identifier, start := 6, stop := 7, field := some .name }, []⟩,
        ⟨{ index := 2, kind := .arrow, start := 10, stop, field := some .value },
          [⟨{ index := 3, kind := .call, start := 16, stop, field := some .body },
            [⟨{ index := 4, kind := .identifier, start := 16, stop := 17, field := some .callee },
                name⟩,
              ⟨{ index := 6, kind := .other "arguments", start := 17, stop,
                  field := some .arguments }, passed⟩]⟩]⟩]⟩

/-- An arrow function over some bytes, with a body from one of them on. -/
def arrow (start body stop : Nat) : Node :=
  ⟨{ index := 7, kind := .arrow, start, stop },
    [⟨{ index := 8, kind := .call, start := body, stop, field := some .body }, []⟩]⟩

/-- The callback maps an array. -/
def mapping : Program :=
  calling "const f = () => f(() => a.map(b));" 33 [] [arrow 18 24 32]

/-- The callback looks something up. -/
def getting : Program :=
  calling "const f = () => f(() => a.get(b));" 33 [] [arrow 18 24 32]

/-- A class stands where the callback stood. -/
def passingClass : Program :=
  calling "const f = () => f(class {});" 27 []
    [⟨{ index := 7, kind := .classValue, start := 18, stop := 26 }, []⟩]

/-- A tree of no grammar: the name that is called is an arrow function inside. -/
def hollow (text : String) : Program :=
  calling text 19 [arrow 16 16 17] []

/-- The hollow name is that of the function. -/
def hollowSelf : Program :=
  hollow "const f = () => f();"

/-- The hollow name is another. -/
def hollowOther : Program :=
  hollow "const f = () => g();"

/-- A function that returns an object, `const f = () => ({[f()]: …})`, from its text and
    the value of the key. -/
def keyed (text : String) (value : Node) : Program where
  source := .ofString text
  root :=
    ⟨{ kind := .declarator, start := 6, stop := value.stop + 2 },
      [⟨{ index := 1, kind := .identifier, start := 6, stop := 7, field := some .name }, []⟩,
        ⟨{ index := 2, kind := .arrow, start := 10, stop := value.stop + 2, field := some .value },
          [⟨{ index := 3, kind := .other "object", start := 16, stop := value.stop + 2,
              field := some .body },
            [⟨{ index := 4, kind := .pair, start := 18, stop := value.stop },
              [⟨{ index := 5, kind := .call, start := 19, stop := 22, field := some .key },
                [⟨{ index := 6, kind := .identifier, start := 19, stop := 20,
                    field := some .callee }, []⟩]⟩,
                value]⟩]⟩]⟩]⟩

def classOfKey : Node :=
  ⟨{ index := 7, kind := .classValue, start := 25, stop := 33, field := some .value }, []⟩

def arrowOfKey : Node :=
  ⟨{ index := 7, kind := .arrow, start := 25, stop := 32, field := some .value }, []⟩

/-- The key has a class for its value. -/
def keyedClass : Program :=
  keyed "const f = () => (\x7b[f()]: class \x7b\x7d\x7d);" classOfKey

/-- The key has a function for its value. -/
def keyedArrow : Program :=
  keyed "const f = () => (\x7b[f()]: () => 1\x7d);" arrowOfKey

/-- A class in the place of a callback, of another length, leaves the verdict as it
    was. -/
theorem growth_of_callback_or_class :
    ∃ d ∈ getting.definitions "anonymous", ∃ e ∈ passingClass.definitions "anonymous",
      d.name = "f" ∧ e.name = "f" ∧
        d.body.alike getting.source passingClass.source e.body = true ∧
        (d.verdict getting.source).map (fun verdict => (verdict.growth, verdict.record.withoutText))
          = (e.verdict passingClass.source).map
            (fun verdict => (verdict.growth, verdict.record.withoutText)) ∧
        (e.verdict passingClass.source).map (·.growth) = .ok .exponential := by
  have h : ∃ d ∈ getting.definitions "anonymous", ∃ e ∈ passingClass.definitions "anonymous",
      d.name = "f" ∧ e.name = "f" ∧
        d.body.alike getting.source passingClass.source e.body = true ∧
        Signals.ofText (getting.source.chars d.body) = {} ∧
        Signals.ofText (passingClass.source.chars e.body) = {} ∧
        (∀ found ∈ d.visited, getting.source.legible found = true) ∧
        (∀ found ∈ e.visited, passingClass.source.legible found = true) ∧
        (e.verdict passingClass.source).map (·.growth) = .ok .exponential := by
    decide +kernel
  rcases h with ⟨d, hd, e, he, hname, hname', hbody, hsignals, hsignals', hlegible, hlegible',
    hgrowth⟩
  exact ⟨d, hd, e, he, hname, hname', hbody,
    Definition.verdict_eq_of_alike (hname.trans hname'.symm) hbody
      (hsignals.trans hsignals'.symm) hlegible hlegible', hgrowth⟩

/-- A nested definition can change the class of the function around it. A callback
    that maps an array makes the text around it show the signal, although all that
    the walks read is legible. With the same signals, a definition inside a name is
    enough, since the name is read with it. And with the same signals and everything
    legible, two definitions that are separate both can differ in whether the key
    that holds them is, and a call in the key is then counted or not. -/
theorem nested_definition_decides_growth :
    (∃ d ∈ mapping.definitions "anonymous", ∃ e ∈ getting.definitions "anonymous",
      d.name = "f" ∧ e.name = "f" ∧
        d.body.alike mapping.source getting.source e.body = true ∧
        (∀ found ∈ d.visited, mapping.source.legible found = true) ∧
        (∀ found ∈ e.visited, getting.source.legible found = true) ∧
        (d.verdict mapping.source).map (·.growth) = .ok .linearithmic ∧
        (e.verdict getting.source).map (·.growth) = .ok .exponential) ∧
    (∃ d ∈ hollowSelf.definitions "anonymous", ∃ e ∈ hollowOther.definitions "anonymous",
      d.name = "f" ∧ e.name = "f" ∧
        d.body.alike hollowSelf.source hollowOther.source e.body = true ∧
        Signals.ofText (hollowSelf.source.chars d.body) = {} ∧
        Signals.ofText (hollowOther.source.chars e.body) = {} ∧
        (d.verdict hollowSelf.source).map (·.growth) = .ok .exponential ∧
        (e.verdict hollowOther.source).map (·.growth) = .ok .constant) ∧
    classOfKey.alike keyedClass.source keyedArrow.source arrowOfKey = true ∧
      ∃ d ∈ keyedClass.definitions "anonymous", ∃ e ∈ keyedArrow.definitions "anonymous",
        d.name = "f" ∧ e.name = "f" ∧
          Signals.ofText (keyedClass.source.chars d.body) = {} ∧
          Signals.ofText (keyedArrow.source.chars e.body) = {} ∧
          (∀ found ∈ d.visited, keyedClass.source.legible found = true) ∧
          (∀ found ∈ e.visited, keyedArrow.source.legible found = true) ∧
          (d.verdict keyedClass.source).map (·.growth) = .ok .exponential ∧
          (e.verdict keyedArrow.source).map (·.growth) = .ok .constant := by
  decide +kernel

end NestedCallback

end Costwise
