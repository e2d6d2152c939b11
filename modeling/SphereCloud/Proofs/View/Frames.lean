import SphereCloud.Proofs.View.Culling
import SphereCloud.Proofs.View.Drawing

/-!
What holds of every picture that a viewer draws, whatever it keeps and however small the picture is.
-/

namespace SphereCloud.Viewer

variable {v : Viewer} {width height : Nat}

/-- A cloud does not matter outside of its cell. -/
theorem image_remove {front back : List (Cloud Float)} {cloud : Cloud Float} {px py : Nat}
    (hclouds : v.clouds = front ++ cloud :: back)
    (houtside : ∀ cell, v.cell? width height cloud.label = some cell → ¬cell.Contains px py) :
    v.image width height px py =
      ({ v with clouds := front ++ back } : Viewer).image width height px py := by
  have hcloud : Dot.topmost (v.dotsOf width height cloud) px py = none := by
    refine Dot.topmost_eq_none.mpr fun d hd hcovers => ?_
    exact houtside d.cell (cell_of_mem_dotsOf hd) hcovers.2.2
  have hdots : v.dots width height = front.flatMap (v.dotsOf width height) ++
      (v.dotsOf width height cloud ++ back.flatMap (v.dotsOf width height)) := by
    rw [dots, hclouds, List.flatMap_append, List.flatMap_cons]
  have hrest : ({ v with clouds := front ++ back } : Viewer).dots width height =
      front.flatMap (v.dotsOf width height) ++ back.flatMap (v.dotsOf width height) :=
    List.flatMap_append
  have htop : Dot.topmost (v.dots width height) px py =
      Dot.topmost (({ v with clouds := front ++ back } : Viewer).dots width height) px py := by
    simp only [hdots, hrest, Dot.topmost_append, hcloud, Option.or_none]
  rw [image, htop]
  rfl

/-- A position without its first coordinate is at the first pixel of a cell, and on the near
side. -/
theorem dot?_of_not_isNumber (v : Viewer) (cell : Cell) (color : UInt32) (position : Vec3 Float)
    (hempty : cell.isEmpty = false) (hx : fitsWord cell.x) (hy : fitsWord cell.y)
    (hposition : ¬BinaryScalar.IsNumber position.x) :
    v.dot? cell color position = some ⟨cell, cell.x, cell.y, pixelOf color 1.0⟩ := by
  have hsingle : ¬BinaryScalar.IsNumber (single position).x :=
    Single.not_isNumber_toSingle hposition
  have hfront : Scalar.lt ((single position).dot v.camera.position) 0.0 = false := by
    refine BinaryScalar.lt_eq_false_iff.mpr (.inl fun hdot => hsingle ?_)
    exact (BinaryScalar.isNumber_of_mul
      (BinaryScalar.isNumber_of_add (BinaryScalar.isNumber_of_add hdot).1).1).1
  rw [dot?, Cell.landing_of_not_isNumber hempty hsingle, hx, hy, tint, hfront]
  rfl

/-- A drawn picture shows the image of the viewer pixel by pixel. It is all background if the grid
has no cells, nothing of the pixels before is left in it, and outside of its cell it is the same
without a cloud. -/
theorem draw_eq_image (v : Viewer) (hfits : Fits width height) {pixels : Pixels}
    (hsize : pixels.size = width * height) :
    ∃ out, v.draw width height pixels = .ok out ∧ out.size = width * height ∧
      (∀ px < width, ∀ py < height,
        out[py * width + px]? = some (v.image width height px py)) ∧
      (v.layout.rowCount = 0 ∨ v.layout.columnCount = 0 → ∀ px < width, ∀ py < height,
        out[py * width + px]? = some backgroundColor) ∧
      (∀ before : Pixels, before.size = width * height → v.draw width height before = .ok out) ∧
      ∀ front cloud back, v.clouds = front ++ cloud :: back → ∃ without,
        ({ v with clouds := front ++ back } : Viewer).draw width height pixels = .ok without ∧
        ∀ px < width, ∀ py < height,
          (∀ cell, v.cell? width height cloud.label = some cell → ¬cell.Contains px py) →
            out[py * width + px]? = without[py * width + px]? := by
  obtain ⟨out, hout, hshows⟩ := v.draw_shows hfits hsize
  refine ⟨out, hout, hshows.size_eq, hshows.getElem?_eq, ?_, ?_, ?_⟩
  · intro hnone px hx py hy
    rw [hshows.getElem?_eq px hx py hy, image_of_no_cells hnone]
  · intro before hbefore
    obtain ⟨out', hout', hshows'⟩ := v.draw_shows hfits hbefore
    rw [hout', hshows.eq hshows']
  · intro front cloud back hclouds
    obtain ⟨without, hwithout, hshows'⟩ :=
      ({ v with clouds := front ++ back } : Viewer).draw_shows hfits hsize
    refine ⟨without, hwithout, fun px hx py hy houtside => ?_⟩
    rw [hshows.getElem?_eq px hx py hy, hshows'.getElem?_eq px hx py hy,
      image_remove hclouds houtside]

/-- Two cells of four by four pixels in a picture of nine by four, over pixels of another color. One
cloud has no view. The other has a point without a first coordinate, whose dot covers a corner of
the second cell. -/
theorem draw_eq_image_two_cells :
    let hidden : Cloud Float := ⟨"c", [⟨0.0, 0.0, 1.0⟩], 0x00FFFFFF⟩
    let shown : Cloud Float := ⟨"b", [⟨0.0 / 0.0, 0.0, 1.0⟩], 0xFF8000FF⟩
    let v : Viewer := ⟨⟨[["a", "b"]], true⟩, [hidden, shown], .initial⟩
    ∃ out, v.draw 9 4 (Array.replicate 36 7) = .ok out ∧ out[0 * 9 + 4]? = some 0xFF8000 ∧
      out[1 * 9 + 5]? = some 0xFF8000 ∧ out[2 * 9 + 4]? = some borderColor ∧
      out[2 * 9 + 5]? = some backgroundColor ∧ out[1 * 9 + 8]? = some backgroundColor := by
  intro hidden shown v
  have hfits : Fits 9 4 := ⟨by decide, by decide, by decide⟩
  have hsize : (Array.replicate 36 7 : Pixels).size = 9 * 4 := rfl
  obtain ⟨out, hout, -, hpixels, -⟩ := v.draw_eq_image hfits hsize
  have hhidden : v.dotsOf 9 4 hidden = [] := by
    have hcell : v.cell? 9 4 hidden.label = none := by decide
    rw [dotsOf, hcell]
  have hshown : v.dotsOf 9 4 shown = [⟨⟨4, 0, 4, 4⟩, 4, 0, 0xFF8000⟩] := by
    have hcell : v.cell? 9 4 shown.label = some ⟨4, 0, 4, 4⟩ := by decide
    have hnone : ¬BinaryScalar.IsNumber (0.0 / 0.0 : Float) := not_not.mpr rfl
    have hcolor : pixelOf 0xFF8000FF 1.0 = 0xFF8000 := by decide +kernel
    have hdot :=
      v.dot?_of_not_isNumber ⟨4, 0, 4, 4⟩ 0xFF8000FF ⟨0.0 / 0.0, 0.0, 1.0⟩ rfl rfl rfl hnone
    rw [hcolor] at hdot
    rw [dotsOf, hcell]
    exact List.filterMap_cons_some hdot
  have hdots : v.dots 9 4 = [⟨⟨4, 0, 4, 4⟩, 4, 0, 0xFF8000⟩] := by
    have hboth : v.dots 9 4 = v.dotsOf 9 4 hidden ++ (v.dotsOf 9 4 shown ++ []) := rfl
    rw [hboth, hhidden, hshown]
    rfl
  simp only [image, hdots] at hpixels
  refine ⟨out, hout, (hpixels 4 ?_ 0 ?_).trans ?_, (hpixels 5 ?_ 1 ?_).trans ?_,
    (hpixels 4 ?_ 2 ?_).trans ?_, (hpixels 5 ?_ 2 ?_).trans ?_, (hpixels 8 ?_ 1 ?_).trans ?_⟩
  all_goals decide +kernel

end SphereCloud.Viewer
