import Storefront.Money.Exchange
import Storefront.Plan.Page

/-! # Reading pages by plans

The options of a page are those of its list that have a valid price, together with the default option
where the plan's mode says so.
-/
namespace Storefront.PagePlan

def optionalField (rule : Option Rule) (doc : Fragment) : Option String :=
  rule.bind fun r => match r.lookup doc with
    | .ok (.ok s) => some (String.ofList s)
    | _ => none

def fragments (list : Rule) (doc : Fragment) : Attempt (List Fragment) :=
  match list.method with
  | .regex => do return (← list.strings doc.content).map Fragment.text
  | .css => do return (← list.elements doc).map fun (d, id) => Fragment.element d id

/-- Reads options from fragments, without those whose price is not valid, up to the first failure of
another kind. -/
def readOptions (parse : Fragment → Attempt Variant) : List Fragment → List Variant × Option Failure
  | [] => ([], none)
  | f :: rest =>
    match parse f with
    | .ok v => let (vs, failure) := readOptions parse rest; (v :: vs, failure)
    | .error (.invalidPrice _) => readOptions parse rest
    | .error failure => ([], some failure)

def parseOption (p : PagePlan) (plan : VariantPlan) (f : Fragment) : Attempt Variant :=
  match p.priceMode with
  | .standalone => plan.parse f
  | .additive => plan.parseDelta f

/-- The options of the list, and the failure that cut them short. -/
def collect (p : PagePlan) (doc : Fragment) : List Variant × Option Failure :=
  match p.list, p.option with
  | some list, some plan =>
    match fragments list doc with
    | .ok fs => readOptions (p.parseOption plan) fs
    | .error failure => ([], some failure)
  | _, _ => ([], some (.misconfigured (.noOptionList p.name p.defaultMode)))

/-- The options of the list. Where the mode allows it, an absence ends the list. -/
def listedOptions (p : PagePlan) (doc : Fragment) : Attempt (List Variant) :=
  if p.defaultMode = .single then .ok []
  else match p.collect doc with
    | (options, none) => .ok options
    | (options, some failure) =>
      if failure.isAbsence ∧ p.defaultMode.toleratesMissingOptions then .ok options
      else .error failure

def readDefault (p : PagePlan) (doc : Fragment) : Attempt Variant :=
  match p.defaultOption with
  | none => .error (.misconfigured (.noDefaultOption p.name p.defaultMode))
  | some plan => do
    let v ← plan.parse doc
    return { v with code := some p.defaultMode.name, propertyA := some p.defaultMode.name }

/-- An option whose price is a difference, with the default price added. -/
def addBase (base : Money) (e : Exchange) (v : Variant) : Attempt Variant := do
  let converted ← base.convert v.price.currency e
  let amount ← Attempt.ofOption (.overflow (.addingToDefault v.price)) (v.price.amount.add converted.amount)
  return { v with price := ⟨amount, v.price.currency⟩ }

def keepsDefault (mode : DefaultMode) (options : List Variant) : Bool :=
  match mode with
  | .alongside => true
  | .single => true
  | .alternative => options.isEmpty
  | _ => false

def mergeDefault (p : PagePlan) (doc : Fragment) (options : List Variant) (e : Exchange) :
    Attempt (List Variant) :=
  if p.defaultMode = .ignore then .ok options
  else do
    let base ← p.readDefault doc
    let options ← match p.priceMode with
      | .additive => options.mapM (addBase base.price e)
      | .standalone => pure options
    return if keepsDefault p.defaultMode options then options ++ [base] else options

/-- The page as it is quoted. -/
def extract (p : PagePlan) (markup : List Char) (e : Exchange) : Attempt Page :=
  match Mold.applyAll p.preprocess markup with
  | .error fault => .error (.misconfigured (.mold fault))
  | .ok processed => do
    let doc := Fragment.ofMarkup processed
    let title := String.ofList (← p.title.extract doc)
    let title := match optionalField p.subtitle doc with
      | some subtitle => s!"{title} {subtitle}"
      | none => title
    let options ← p.mergeDefault doc (← p.listedOptions doc) e
    return ⟨title, optionalField p.thumbnail doc, options⟩

/-- The fee of an order shared among the pieces that fit under the order's limit. -/
def feeShare (limit extra value : Decimal) : Option Decimal :=
  (limit.div value).bind extra.div

def withFee (limit extra : Option Money) (value : Decimal) : Attempt Decimal :=
  match limit, extra with
  | some limit, some extra =>
    if limit.amount.isPositive && value.isPositive then
      Attempt.ofOption (.overflow (.sharingFee value)) ((feeShare limit.amount extra.amount value).bind value.add)
    else .ok value
  | _, _ => .ok value

def convertOption (m : Option Money) (main : Currency) (e : Exchange) : Attempt (Option Money) :=
  match m with
  | none => .ok none
  | some m => (m.convert main e).map some

def normalizeOption (p : PagePlan) (divisor : Decimal) (limit extra : Option Money) (main : Currency)
    (e : Exchange) (v : Variant) : Attempt Variant := do
  let converted ← v.price.convert main e
  let value ← Attempt.ofOption (.misconfigured (.nothingLeft p.name p.economics.deduction))
    (converted.amount.div divisor)
  let value ← withFee limit extra value
  return { v with price := ⟨value, main⟩ }

/-- The page with all prices in the main currency under the plan's terms. -/
def normalize (p : PagePlan) (page : Page) (main : Currency) (e : Exchange) : Attempt Page := do
  let divisor ← Attempt.ofOption .outOfRange (Decimal.one.add p.economics.deduction)
  let limit ← convertOption p.economics.limit main e
  let extra ← convertOption p.economics.extra main e
  let options ← page.options.mapM (p.normalizeOption divisor limit extra main e)
  return { page with options }

def parse (p : PagePlan) (markup : List Char) (main : Currency) (e : Exchange) : Attempt Page := do
  p.normalize (← p.extract markup e) main e

end Storefront.PagePlan
