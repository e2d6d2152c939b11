import SphereCloud.View.Picture

/-!
What is painted on the pixels of a picture, as a color for each column and row.
-/

namespace SphereCloud

theorem mem_rectangle {width x y columns rows i : Nat} :
    i ∈ rectangle width x y columns rows ↔
      ∃ px py, (x ≤ px ∧ px < x + columns) ∧ (y ≤ py ∧ py < y + rows) ∧ i = py * width + px := by
  simp only [rectangle, List.mem_flatMap, List.mem_map, List.mem_range'_1]
  constructor
  · rintro ⟨py, hy, px, hx, rfl⟩
    exact ⟨px, py, hx, hy, rfl⟩
  · rintro ⟨px, py, hx, hy, rfl⟩
    exact ⟨py, hy, px, hx, rfl⟩

/-- A place within the rows determines its column and its row. -/
theorem place_inj {width px py qx qy : Nat} (hp : px < width) (hq : qx < width)
    (h : py * width + px = qy * width + qx) : px = qx ∧ py = qy := by
  have hcolumn : px = qx := by
    calc px = (py * width + px) % width := (Nat.mul_add_mod_of_lt hp).symm
      _ = (qy * width + qx) % width := by rw [h]
      _ = qx := Nat.mul_add_mod_of_lt hq
  subst hcolumn
  exact ⟨rfl, Nat.eq_of_mul_eq_mul_right (Nat.zero_lt_of_lt hp) (Nat.add_right_cancel h)⟩

theorem place_lt {width height px py : Nat} (hx : px < width) (hy : py < height) :
    py * width + px < width * height := by
  calc py * width + px
      < py * width + width := Nat.add_lt_add_left hx _
    _ = (py + 1) * width := (Nat.succ_mul py width).symm
    _ ≤ height * width := Nat.mul_le_mul_right width hy
    _ = width * height := Nat.mul_comm height width

/-- A list has the places in a picture of the pixels that a figure covers, and no others. -/
structure Traces (places : List Nat) (width height : Nat) (covers : Nat → Nat → Prop) : Prop where
  lt : ∀ i ∈ places, i < width * height
  mem_iff : ∀ px < width, ∀ py < height, py * width + px ∈ places ↔ covers px py

namespace Traces

variable {places more : List Nat} {width height : Nat} {covers coversMore : Nat → Nat → Prop}

theorem congr (h : Traces places width height covers)
    (hcovers : ∀ px py, covers px py ↔ coversMore px py) :
    Traces places width height coversMore where
  lt := h.lt
  mem_iff px hx py hy := (h.mem_iff px hx py hy).trans (hcovers px py)

theorem append (h : Traces places width height covers)
    (hmore : Traces more width height coversMore) :
    Traces (places ++ more) width height fun px py => covers px py ∨ coversMore px py where
  lt i hi := (List.mem_append.mp hi).elim (h.lt i) (hmore.lt i)
  mem_iff px hx py hy := by
    rw [List.mem_append, h.mem_iff px hx py hy, hmore.mem_iff px hx py hy]

/-- A rectangle that ends within the picture does not run into the next row. -/
theorem rectangle {x y columns rows : Nat} (hright : x + columns ≤ width)
    (hbottom : y + rows ≤ height) :
    Traces (rectangle width x y columns rows) width height fun px py =>
      (x ≤ px ∧ px < x + columns) ∧ (y ≤ py ∧ py < y + rows) where
  lt i hi := by
    obtain ⟨px, py, hx, hy, rfl⟩ := mem_rectangle.mp hi
    exact place_lt (Nat.lt_of_lt_of_le hx.2 hright) (Nat.lt_of_lt_of_le hy.2 hbottom)
  mem_iff px hpx py hpy := by
    rw [mem_rectangle]
    constructor
    · rintro ⟨qx, qy, hx, hy, h⟩
      obtain ⟨rfl, rfl⟩ := place_inj hpx (Nat.lt_of_lt_of_le hx.2 hright) h
      exact ⟨hx, hy⟩
    · rintro ⟨hx, hy⟩
      exact ⟨px, py, hx, hy, rfl⟩

end Traces

abbrev Image := Nat → Nat → UInt32

namespace Pixels

/-- Painting succeeds on places of the picture, and changes no other place. -/
theorem paint_eq_ok (color : UInt32) {places : List Nat} {pixels : Pixels}
    (h : ∀ i ∈ places, i < pixels.size) :
    ∃ out, pixels.paint color places = .ok out ∧ out.size = pixels.size ∧
      ∀ i < pixels.size, out[i]? = if i ∈ places then some color else pixels[i]? := by
  induction places generalizing pixels with
  | nil => exact ⟨pixels, rfl, rfl, by simp⟩
  | cons first places ih =>
    obtain ⟨hfirst, hplaces⟩ := List.forall_mem_cons.mp h
    have hset : ∀ i ∈ places, i < (pixels.set first color hfirst).size := by simpa using hplaces
    obtain ⟨out, hpaint, hsize, hout⟩ := ih hset
    rw [Array.size_set] at hsize hout
    refine ⟨out, ?_, hsize, fun i hi => ?_⟩
    · rw [paint, List.foldlM_cons, paintOne, dif_pos hfirst]
      exact hpaint
    · rw [hout i hi, Array.getElem?_set]
      by_cases hmem : i ∈ places
      · simp [hmem]
      · by_cases heq : first = i
        · simp [hmem, heq]
        · simp [hmem, heq, Ne.symm heq]

/-- The pixels are those of an image of some width and height. -/
structure Shows (pixels : Pixels) (width height : Nat) (image : Image) : Prop where
  size_eq : pixels.size = width * height
  getElem?_eq : ∀ px < width, ∀ py < height, pixels[py * width + px]? = some (image px py)

variable {width height : Nat} {pixels other : Pixels} {image image' : Image}

namespace Shows

theorem congr (h : pixels.Shows width height image)
    (himage : ∀ px < width, ∀ py < height, image px py = image' px py) :
    pixels.Shows width height image' where
  size_eq := h.size_eq
  getElem?_eq px hx py hy := by rw [h.getElem?_eq px hx py hy, himage px hx py hy]

/-- Pixels that show one image are equal. -/
theorem eq (h : pixels.Shows width height image) (ho : other.Shows width height image) :
    pixels = other := by
  refine Array.ext_getElem? fun i => ?_
  by_cases hi : i < width * height
  · have hwidth : 0 < width := Nat.pos_of_mul_pos_right (Nat.zero_lt_of_lt hi)
    have hx : i % width < width := Nat.mod_lt i hwidth
    have hy : i / width < height := Nat.div_lt_of_lt_mul hi
    have hplace : i / width * width + i % width = i := Nat.div_add_mod' i width
    rw [← hplace, h.getElem?_eq _ hx _ hy, ho.getElem?_eq _ hx _ hy]
  · rw [Array.getElem?_eq_none (by rw [h.size_eq]; omega),
      Array.getElem?_eq_none (by rw [ho.size_eq]; omega)]

theorem fill (hsize : pixels.size = width * height) (color : UInt32) :
    (pixels.fill color).Shows width height fun _ _ => color where
  size_eq := by rw [Pixels.fill, Array.size_replicate, hsize]
  getElem?_eq px hx py hy := by
    rw [Pixels.fill, Array.getElem?_replicate, if_pos (hsize ▸ place_lt hx hy)]

/-- Painting a figure covers a part of the image with a color. -/
theorem paint {covers : Nat → Nat → Prop} [∀ px py, Decidable (covers px py)] {places : List Nat}
    (h : pixels.Shows width height image) (color : UInt32)
    (hplaces : Traces places width height covers) :
    ∃ out, pixels.paint color places = .ok out ∧
      out.Shows width height fun px py => if covers px py then color else image px py := by
  have hlt : ∀ i ∈ places, i < pixels.size := h.size_eq ▸ hplaces.lt
  obtain ⟨out, hpaint, hsize, hout⟩ := paint_eq_ok color hlt
  refine ⟨out, hpaint, ⟨hsize.trans h.size_eq, fun px hx py hy => ?_⟩⟩
  rw [hout _ (h.size_eq ▸ place_lt hx hy), h.getElem?_eq px hx py hy]
  have hmem := hplaces.mem_iff px hx py hy
  by_cases hpixel : covers px py
  · rw [if_pos (hmem.mpr hpixel), if_pos hpixel]
  · rw [if_neg (mt hmem.mp hpixel), if_neg hpixel]

/-- Steps that each turn an image into the next make a run that does. -/
theorem foldlM {β : Type} {step : Pixels → β → Except PaintFault Pixels}
    {lay : Image → β → Image} {items : List β} (h : pixels.Shows width height image)
    (hstep : ∀ item ∈ items, ∀ {pixels : Pixels} {image : Image},
      pixels.Shows width height image →
        ∃ out, step pixels item = .ok out ∧ out.Shows width height (lay image item)) :
    ∃ out, items.foldlM step pixels = .ok out ∧
      out.Shows width height (items.foldl lay image) := by
  induction items generalizing pixels image with
  | nil => exact ⟨pixels, rfl, h⟩
  | cons item items ih =>
    obtain ⟨hitem, hitems⟩ := List.forall_mem_cons.mp hstep
    obtain ⟨next, hnext, hshows⟩ := hitem h
    obtain ⟨out, hout, hlast⟩ := ih hshows hitems
    refine ⟨out, ?_, hlast⟩
    rw [List.foldlM_cons, hnext]
    exact hout

end Shows

end Pixels

end SphereCloud
