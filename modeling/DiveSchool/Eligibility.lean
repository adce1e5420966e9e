import DiveSchool.Offering.Basic

/-!
# `DiveSchool.Eligibility` — who may take an offering

Two strategies decide. The ordinal one compares ranks. The other reads a table of rules: of the rules
whose condition holds, the one with the greatest salience decides, and of equals the earliest.

## Contents
- **Verdicts.** `Verdict` and its three stock forms.
- **Ordinal.** `Ordinal.validate`.
- **Rules.** `Facts`, `Condition`, `Outcome`, `Rule`, and `RuleTable`, ordered by salience.
- **Strategies.** `Strategy`, `Strategy.validate`, and the rule it names in the log.
-/

namespace DiveSchool

/-! ## Verdicts -/

/-- The outcome of an eligibility check and, if it is a refusal, why. -/
structure Verdict where
  valid : Bool
  message : String
  deriving DecidableEq, Repr, Inhabited

namespace Verdict

/-- The holder may take the offering. -/
def eligible : Verdict := ⟨true, ""⟩

/-- The holder may not take the offering. -/
def refused (message : String) : Verdict := ⟨false, message⟩

/-- The offering confers nothing new on the holder. -/
def alreadyCertified : Verdict := refused "holder already holds this certification or higher"

/-- The holder's level is below the requirement. -/
def insufficient (holder required : Level) : Verdict :=
  refused
    s!"Holder certification level {holder} is insufficient for required level {required}"

/-- No rule of a table applies. -/
def unmatched : Verdict := refused "No eligibility rule matched"

end Verdict

/-! ## Ordinal -/

/-- A holder who already has the conferred level is refused first, then one below the requirement. -/
def Ordinal.validate (holder : Option Level) (o : Offering) : Verdict :=
  let level := Level.ofHolder holder
  if o.provided.any level.meets then .alreadyCertified
  else match o.required with
    | some required => if level.meets required then .eligible else .insufficient level required
    | none => .eligible

/-! ## Rules -/

/-- What the rules look at. -/
structure Facts where
  holder : Level
  provided : Option Level
  required : Option Level
  deriving DecidableEq, Repr, Inhabited

/-- The facts about a holder and an offering. -/
def Facts.gather (holder : Option Level) (o : Offering) : Facts :=
  ⟨Level.ofHolder holder, o.provided, o.required⟩

/-- When a rule applies. -/
inductive Condition where
  /-- The holder has the conferred level. -/
  | holderMeetsProvided
  /-- The holder is below the requirement. -/
  | holderBelowRequired
  /-- In every case. -/
  | always
  deriving DecidableEq, Repr, Inhabited

/-- Whether a condition holds of the facts. -/
def Condition.holds : Condition → Facts → Bool
  | holderMeetsProvided, f => f.provided.any f.holder.meets
  | holderBelowRequired, f => !Level.satisfies (some f.holder) f.required
  | always, _ => true

/-- What a rule decides. -/
inductive Outcome where
  | rejectAlreadyCertified
  | rejectInsufficient
  | accept
  deriving DecidableEq, Repr, Inhabited

/-- The verdict of an outcome; a missing requirement is named as that of a non-diver. -/
def Outcome.verdict : Outcome → Facts → Verdict
  | rejectAlreadyCertified, _ => .alreadyCertified
  | rejectInsufficient, f => .insufficient f.holder (Level.ofHolder f.required)
  | accept, _ => .eligible

/-- A condition, what it leads to, and how much weight it has. -/
structure Rule where
  name : String
  salience : Int32
  condition : Condition
  outcome : Outcome
  deriving DecidableEq, Repr, Inhabited

/-- A list of rules in descending salience; equals keep the order they were given in. -/
structure RuleTable where
  rules : List Rule
  deriving DecidableEq, Repr

namespace RuleTable

/-- Order rules by descending salience. -/
def ofRules (rules : List Rule) : RuleTable :=
  ⟨rules.mergeSort fun a b => b.salience ≤ a.salience⟩

/-- The rule that decides: the first one whose condition holds. -/
def fire? (t : RuleTable) (f : Facts) : Option Rule := t.rules.find? (·.condition.holds f)

/-- What the table decides; an empty table admits nobody. -/
def verdict (t : RuleTable) (f : Facts) : Verdict :=
  match t.fire? f with
  | some r => r.outcome.verdict f
  | none => .unmatched

/-- What the table decides about a holder and an offering. -/
def validate (t : RuleTable) (holder : Option Level) (o : Offering) : Verdict :=
  t.verdict (Facts.gather holder o)

/-- The three rules that decide as the ordinal strategy does. -/
def stockRules : List Rule :=
  [⟨"already-certified", 100, .holderMeetsProvided, .rejectAlreadyCertified⟩,
   ⟨"prerequisite-not-met", 50, .holderBelowRequired, .rejectInsufficient⟩,
   ⟨"eligible", 0, .always, .accept⟩]

/-- The table of the stock rules. -/
def stock : RuleTable := ofRules stockRules

end RuleTable

/-! ## Strategies -/

/-- How a strategy is chosen in the settings. -/
inductive StrategyKind where
  | ordinal
  | rules
  deriving DecidableEq, Repr, Inhabited

namespace StrategyKind

/-- Both strategies. -/
def all : List StrategyKind := [ordinal, rules]

/-- The name of the strategy. -/
def name : StrategyKind → String
  | ordinal => "ordinal"
  | rules => "rules"

instance : ToString StrategyKind := ⟨name⟩

/-- The strategy with a given name. -/
def ofName? (text : String) : Option StrategyKind := all.find? (·.name == text)

end StrategyKind

/-- A way to decide eligibility. -/
inductive Strategy where
  | ordinal
  | rules (table : RuleTable)
  deriving DecidableEq, Repr

namespace Strategy

instance : Inhabited Strategy := ⟨ordinal⟩

/-- The strategy chosen in the settings. -/
def ofKind : StrategyKind → Strategy
  | .ordinal => ordinal
  | .rules => rules .stock

/-- The name of the strategy. -/
def name : Strategy → String
  | ordinal => "ordinal"
  | rules _ => "rules"

/-- Decide about a holder and an offering. -/
def validate : Strategy → Option Level → Offering → Verdict
  | ordinal, holder, o => Ordinal.validate holder o
  | rules table, holder, o => table.validate holder o

/-- The rule a decision rests on, for strategies that have rules. -/
def firedRule? : Strategy → Option Level → Offering → Option Rule
  | ordinal, _, _ => none
  | rules table, holder, o => table.fire? (Facts.gather holder o)

end Strategy

end DiveSchool
