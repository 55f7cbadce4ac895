import AgentOperator.Codec.Fields

/-!
# Object metadata

What every Kubernetes object says of itself: its name and place, its labels and annotations, and
who owns it. `ObjectMeta.controlledBy` is the question on which the removal of objects rests.
-/

namespace AgentOperator.Kubernetes

/-- A reference from an object to one that owns it. -/
structure OwnerReference where
  apiVersion : String
  kind : String
  name : String
  uid : String
  controller : Option Bool := none
  blockOwnerDeletion : Option Bool := none
deriving DecidableEq

/-- Owner references as documents. -/
def OwnerReference.codec : Codec OwnerReference :=
  .kubernetes "OwnerReference" <|
    Fields.build OwnerReference OwnerReference.mk
    |>.field "apiVersion" apiVersion (.required .text "")
    |>.field "kind" kind (.required .text "")
    |>.field "name" name (.required .text "")
    |>.field "uid" uid (.required .text "")
    |>.field "controller" controller (.optional .boolean)
    |>.field "blockOwnerDeletion" blockOwnerDeletion (.optional .boolean)

/-- The metadata of an object. -/
structure ObjectMeta where
  name : Option String := none
  generateName : Option String := none
  inNamespace : Option String := none
  uid : Option String := none
  generation : Option Int64 := none
  labels : Option (Dict String) := none
  annotations : Option (Dict String) := none
  resourceVersion : Option String := none
  finalizers : Option (List String) := none
  ownerReferences : Option (List OwnerReference) := none
  deletionGracePeriodSeconds : Option Int64 := none
  selfLink : Option String := none
deriving DecidableEq

namespace ObjectMeta

/-- Metadata as documents. -/
def codec : Codec ObjectMeta :=
  .kubernetes "ObjectMeta" <|
    Fields.build ObjectMeta ObjectMeta.mk
    |>.field "name" name (.optional .text)
    |>.field "generateName" generateName (.optional .text)
    |>.field "namespace" inNamespace (.optional .text)
    |>.field "uid" uid (.optional .text)
    |>.field "generation" generation (.optional .int64)
    |>.field "labels" labels (.optional (.dict .text))
    |>.field "annotations" annotations (.optional (.dict .text))
    |>.field "resourceVersion" resourceVersion (.optional .text)
    |>.field "finalizers" finalizers (.optional (.list .text))
    |>.field "ownerReferences" ownerReferences (.optional (.list OwnerReference.codec))
    |>.field "deletionGracePeriodSeconds" deletionGracePeriodSeconds (.optional .int64)
    |>.field "selfLink" selfLink (.optional .text)

/-- The name that an object goes by: its name, or the stem of it while it has none. -/
def displayName (m : ObjectMeta) : String :=
  (m.name <|> m.generateName).getD ""

/-- Whether an object with this unique id manages the object. -/
def controlledBy (m : ObjectMeta) (uid : Option String) : Bool :=
  (m.ownerReferences.getD []).any fun owner =>
    owner.controller == some true && some owner.uid == uid

end ObjectMeta

/-- A condition on one label: how its value is compared with some values. -/
structure LabelSelectorRequirement where
  key : String
  operator : String
  values : Option (List String) := none
deriving DecidableEq

/-- Conditions on labels as documents. -/
def LabelSelectorRequirement.codec : Codec LabelSelectorRequirement :=
  .kubernetes "LabelSelectorRequirement" <|
    Fields.build LabelSelectorRequirement LabelSelectorRequirement.mk
    |>.field "key" key (.required .text "")
    |>.field "operator" operator (.required .text "")
    |>.field "values" values (.optional (.list .text))

/-- The condition that selects objects by labels that they have to have and by further conditions on
their labels. -/
structure LabelSelector where
  matchLabels : Option (Dict String) := none
  matchExpressions : Option (List LabelSelectorRequirement) := none
deriving DecidableEq

/-- Label selectors as documents. -/
def LabelSelector.codec : Codec LabelSelector :=
  .kubernetes "LabelSelector" <|
    Fields.build LabelSelector LabelSelector.mk
    |>.field "matchLabels" matchLabels (.optional (.dict .text))
    |>.field "matchExpressions" matchExpressions (.optional (.list LabelSelectorRequirement.codec))

/-- A port given by its number or by its name. -/
inductive IntOrString where
  | int (value : Int32)
  | str (value : String)
deriving DecidableEq

/-- Ports given by number or name as documents. -/
def IntOrString.codec : Codec IntOrString where
  encode
    | .int value => .int value.toInt
    | .str value => .str value
  decode
    | .int value =>
      match Codec.int32OfInt? value with
      | some value => .ok (.int value)
      | none => .error (.wrongValue (.int value) "a 32-bit integer")
    | .str value => .ok (.str value)
    | j => Codec.refuse "IntOrString" j

/-- Amounts of a resource. A whole number is read as the text of it. -/
def quantity : Codec String where
  encode := .str
  decode
    | .str value => .ok value
    | .int value => .ok (toString value)
    | j => Codec.refuse "Quantity" j

end AgentOperator.Kubernetes
