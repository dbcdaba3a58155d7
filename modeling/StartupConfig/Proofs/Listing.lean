import Mathlib.Data.List.Forall2
import StartupConfig.Listing
import StartupConfig.Proofs.Layering

/-!
# The listing against the report

A listing says of each variable whether it is present, a report from where each value came. Both are about the same
settings in the same order, and where the value did not come from the variable it is the default of the listing.
-/
namespace StartupConfig

/-- A row of a listing and a resolution of a report agree: they are about the same variable, the row calls it unset
exactly if its default was taken for want of a text, and a default that was taken is the one in the row. -/
structure ListingRow.Matches (row : ListingRow) (r : Resolution) : Prop where
  variableName : row.setting.variableName = r.setting.variableName
  field : row.setting.field = r.setting.field
  kind : row.setting.kind = r.setting.kind
  isSet_eq_false_iff : row.isSet = false ↔ r.source = .fallback
  value_eq_default : (r.source = .fallback ∨ ∃ raw, r.source = .rejected raw) → r.value = row.default

namespace Loader

/-- A value that did not come from the environment is the default. -/
theorem text_load_of_ne (l : Loader) {s : Setting} (h : l.sourceOf s ≠ .environment) :
    l.load.text s = l.defaults.text s := by
  rw [load_eq]
  rcases l.sourceOf_cases s with ⟨hnone, -⟩ | ⟨raw, hraw, ⟨-, hs⟩ | ⟨hadmits, -⟩⟩
  · cases s <;> simp only [Record.text, hnone, Option.getD_none, Option.bind_none]
  · exact absurd hs h
  · obtain ⟨rfl, hlong⟩ := (s.not_admits_iff raw).1 hadmits
    have hread : long? raw = none := Option.not_isSome_iff_eq_none.1 (mt (isSome_long?_iff raw).1 hlong)
    simp only [Record.text, hraw, Option.bind_some, hread, Option.getD_none]

theorem row_matches (e : Lookup) (s : Setting) :
    ListingRow.Matches ⟨s, Record.documented.text s, (e s.variableName).isSome⟩
      ⟨s, (Loader.reading e).load.text s, (Loader.reading e).sourceOf s⟩ where
  variableName := rfl
  field := rfl
  kind := rfl
  isSet_eq_false_iff := by
    rw [sourceOf_eq_fallback_iff]
    exact Option.isSome_eq_false_iff.trans Option.isNone_iff_eq_none
  value_eq_default h := by
    apply text_load_of_ne
    intro henvironment
    rcases h with h | ⟨raw, h⟩
    · cases h.symm.trans henvironment
    · cases h.symm.trans henvironment

end Loader

/-- Listing and report of one environment agree row by row. In the environment of a process a row is set exactly if
its variable has bytes, well formed or not. -/
theorem Loader.listing_matches :
    (∀ e : Lookup, List.Forall₂ ListingRow.Matches (listing e) (Loader.reading e).report.resolutions) ∧
    ∀ p : ProcessEnvironment,
      List.Forall₂ ListingRow.Matches (listing p.lookup) (Loader.reading p.lookup).report.resolutions ∧
      (listing p.lookup).map ListingRow.isSet = Setting.all.map fun s => (p.bytes? s.variableName).isSome := by
  have hmatches (e : Lookup) :
      List.Forall₂ ListingRow.Matches (listing e) (Loader.reading e).report.resolutions := by
    rw [listing, resolutions_eq, List.forall₂_map_left_iff, List.forall₂_map_right_iff, List.forall₂_same]
    intro s _
    exact row_matches e s
  refine ⟨hmatches, ?_⟩
  intro p
  constructor
  · exact hmatches p.lookup
  · rw [listing, List.map_map]
    apply List.map_congr_left
    intro s _
    simp [ProcessEnvironment.lookup]

end StartupConfig
