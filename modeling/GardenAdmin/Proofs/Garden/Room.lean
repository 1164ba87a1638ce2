import GardenAdmin.Garden.Record
import GardenAdmin.Proofs.Wire.Room

/-!
# Reading a record in room enough

How a record is read, and every block in it, depends on no more room than its document takes.
-/

namespace GardenAdmin

open Json Wire

section

variable {σ : Type} {name : String}

theorem steady_portDecoder : Steady portDecoder := by
  intro v room room' _ _
  cases v with
  | number n => cases n <;> rfl
  | _ => rfl

theorem steady_portField {get : σ → Option Int} {set : Option Int → σ → σ} :
    Steady (portField get set).read :=
  steady_portDecoder.map set

theorem steady_textField {get : σ → Option String} {set : Option String → σ → σ} :
    Steady (textField name get set).read :=
  steady_string.optional.map set

theorem steady_flagField {get : σ → Option Bool} {set : Option Bool → σ → σ} :
    Steady (flagField name get set).read :=
  steady_bool.optional.map set

end

theorem HttpParams.steady_decoder : Steady decoder := by
  refine Layout.steady_decoder fun f mem => ?_
  simp only [layout, List.mem_cons, List.not_mem_nil, or_false] at mem
  rcases mem with rfl | rfl | rfl | rfl | rfl | rfl | rfl | rfl
  case inr.inl => exact steady_portField
  case inr.inr.inr.inr.inl | inr.inr.inr.inr.inr.inl => exact steady_flagField
  all_goals exact steady_textField

theorem StompSsl.steady_decoder : Steady decoder := by
  refine Layout.steady_decoder fun f mem => ?_
  simp only [layout, List.mem_cons, List.not_mem_nil, or_false] at mem
  rcases mem with rfl | rfl | rfl | rfl
  case inl => exact steady_flagField
  all_goals exact steady_textField

namespace HeaderRow

theorem steady_decoder : Steady decoder := by
  refine Layout.steady_decoder fun f mem => ?_
  simp only [layout, List.mem_cons, List.not_mem_nil, or_false] at mem
  rcases mem with rfl | rfl <;> exact steady_textField

theorem steady_rowsDecoder : Steady rowsDecoder := by
  intro v room room' canonical canonical'
  cases v with
  | array xs => exact steady_decoder.list _ _ _ canonical canonical'
  | object ms =>
    cases canonical with
    | object _ members =>
      cases canonical' with
      | object _ members' =>
        refine mapM_toDocMembers_congr fun m mem => ?_
        exact steady_value.map (ofEntry m.1) _ _ _ (members m mem) (members' m mem)
  | _ => rfl

end HeaderRow

theorem StompParams.steady_decoder : Steady decoder := by
  refine Layout.steady_decoder fun f mem => ?_
  simp only [layout, Stomp.layout, List.mem_cons, List.not_mem_nil, or_false] at mem
  rcases mem with rfl | rfl | rfl | rfl | rfl | rfl | rfl | rfl
  case inr.inl => exact steady_portField
  case inr.inr.inr.inr.inr.inr.inl => exact StompSsl.steady_decoder.optional.map _
  case inr.inr.inr.inr.inr.inr.inr => exact HeaderRow.steady_rowsDecoder.map _
  all_goals exact steady_textField

theorem ConnectionParams.steady_decoder : Steady decoder := by
  refine Layout.steady_decoder fun f mem => ?_
  simp only [layout, List.mem_cons, List.not_mem_nil, or_false] at mem
  rcases mem with rfl | rfl
  · exact HttpParams.steady_decoder.optional.map _
  · exact StompParams.steady_decoder.optional.map _

theorem ConnectionType.steady_decoder : Steady decoder := by
  intro v room room' canonical canonical'
  cases canonical with
  | @object _ ms =>
    cases canonical' with
    | object =>
      cases ms with
      | nil => rfl
      | cons m ms => rfl
  | _ => rfl

namespace Garden

theorem steady_fields : ∀ f ∈ layout.fields, Steady f.read := by
  intro f mem
  simp only [layout, List.mem_cons, List.not_mem_nil, or_false] at mem
  rcases mem with rfl | rfl | rfl | rfl | rfl
  · exact steady_string.optional.map _
  · exact steady_string.map _
  · exact steady_textField
  · exact ConnectionType.steady_decoder.optional.map _
  · exact ConnectionParams.steady_decoder.optional.map _

theorem steady_keepExtra (key : String) : Steady (keepExtra key) := by
  intro v room room' canonical canonical'
  rw [keepExtra, keepExtra, steady_value v room room' canonical canonical']

theorem steady_decoder : Steady decoder := by
  intro v room room' canonical canonical'
  cases canonical with
  | object _ members =>
    cases canonical' with
    | object _ members' =>
      exact Layout.readMembers_congr steady_fields steady_keepExtra members members'
  | _ => rfl

end Garden

end GardenAdmin
