/-
  SandboxClient/Proofs/Yaml/Blocks.lean
  =====================================
  **Blocks that are read back.** Whether the text of a block is read as the value
  that the block stands for can be computed: `Block.standsFor` compares a value
  with a block field by field, in their order, and `readsBack_iff` says that
  this comparison is equality. `Node.same` would not do, since it overlooks the
  order of the entries of a mapping.
-/
import SandboxClient.Yaml.Written

namespace SandboxClient.Yaml

/-! ### Comparing values with blocks -/

mutual

/-- Whether a value is the one that a block stands for. -/
def Block.standsFor : Block → Node → Bool
  | .text s, .text t => t == s
  | .flag a, .bool b => b == a
  | .items bs, .sequence ns => itemsStandFor bs ns
  | .fields fs, .mapping es => fieldsStandFor fs es
  | _, _ => false

def itemsStandFor : List Block → List Node → Bool
  | [], [] => true
  | b :: bs, n :: ns => b.standsFor n && itemsStandFor bs ns
  | _, _ => false

def fieldsStandFor : List (String × Block) → List (Node × Node) → Bool
  | [], [] => true
  | (k, b) :: fs, (.text t, n) :: es => t == k && b.standsFor n && fieldsStandFor fs es
  | _, _ => false

end

mutual

theorem standsFor_iff (b : Block) (n : Node) : b.standsFor n = true ↔ n = b.node := by
  cases b with
  | text s => cases n <;> simp [Block.standsFor, Block.node]
  | flag a => cases n <;> simp [Block.standsFor, Block.node]
  | items bs =>
    cases n with
    | sequence ns => simp [Block.standsFor, Block.node, itemsStandFor_iff bs ns]
    | _ => simp [Block.standsFor, Block.node]
  | fields fs =>
    cases n with
    | mapping es => simp [Block.standsFor, Block.node, fieldsStandFor_iff fs es]
    | _ => simp [Block.standsFor, Block.node]

theorem itemsStandFor_iff (bs : List Block) (ns : List Node) :
    itemsStandFor bs ns = true ↔ ns = itemNodes bs := by
  cases bs with
  | nil => cases ns <;> simp [itemsStandFor, itemNodes]
  | cons b bs =>
    cases ns with
    | nil => simp [itemsStandFor, itemNodes]
    | cons n ns =>
      simp [itemsStandFor, itemNodes, standsFor_iff b n, itemsStandFor_iff bs ns]

theorem fieldsStandFor_iff (fs : List (String × Block)) (es : List (Node × Node)) :
    fieldsStandFor fs es = true ↔ es = fieldNodes fs := by
  cases fs with
  | nil => cases es <;> simp [fieldsStandFor, fieldNodes]
  | cons f fs =>
    obtain ⟨k, b⟩ := f
    cases es with
    | nil => simp [fieldsStandFor, fieldNodes]
    | cons e es =>
      obtain ⟨key, n⟩ := e
      cases key with
      | text t =>
        simp [fieldsStandFor, fieldNodes, standsFor_iff b n, fieldsStandFor_iff fs es]
      | _ => simp [fieldsStandFor, fieldNodes]

end

/-! ### Reading back -/

/-- Reading the text of a block gives the value that the block stands for. -/
def Block.ReadsBack (b : Block) : Prop := read b.write.toList = .ok b.node

theorem readsBack_iff {b : Block} :
    b.ReadsBack ↔ (read b.write.toList).toOption.any b.standsFor = true := by
  unfold Block.ReadsBack
  cases read b.write.toList with
  | error fault => simp [Except.toOption]
  | ok n => simp [Except.toOption, standsFor_iff]

instance (b : Block) : Decidable b.ReadsBack := decidable_of_iff _ readsBack_iff.symm

end SandboxClient.Yaml
