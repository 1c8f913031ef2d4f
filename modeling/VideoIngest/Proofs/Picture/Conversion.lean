import Mathlib.Algebra.BigOperators.Group.Finset.Basic
import Mathlib.Algebra.Group.Action.Defs
import Mathlib.Algebra.GroupWithZero.Nat
import Mathlib.Algebra.Order.BigOperators.Group.Finset
import Mathlib.Data.List.ProdSigma
import VideoIngest.Picture.I420

/-!
What conversion from packed RGB comes to, sample by sample.

Every sample is the value of its formula in whole numbers: none is cut off at the ends of a byte,
since the values stay within 16 to 235 for luma and within 16 to 240 for chroma.
-/

namespace VideoIngest

/-! ### The formulas -/

namespace Rgb

def lumaLevel (red green blue : Int) : Int :=
  ((66 * red + 129 * green + 25 * blue + 128) >>> (8 : Nat)) + 16

def blueLevel (red green blue : Int) : Int :=
  ((-38 * red - 74 * green + 112 * blue + 128) >>> (8 : Nat)) + 128

def redLevel (red green blue : Int) : Int :=
  ((112 * red - 94 * green - 18 * blue + 128) >>> (8 : Nat)) + 128

structure FitsBytes (colour : Rgb) : Prop where
  red : colour.red ≤ 255
  green : colour.green ≤ 255
  blue : colour.blue ≤ 255

theorem toNat_sample {value : Int} (low : 0 ≤ value) (high : value ≤ 255) :
    ((sample value).toNat : Int) = value := by
  simp only [sample, UInt8.toNat_ofNat']
  omega

variable {colour : Rgb}

private theorem lumaLevel_mem (fits : colour.FitsBytes) :
    16 ≤ lumaLevel colour.red colour.green colour.blue ∧
      lumaLevel colour.red colour.green colour.blue ≤ 235 := by
  obtain ⟨red, green, blue⟩ := fits
  simp only [lumaLevel, Int.shiftRight_eq_div_pow]
  omega

private theorem blueLevel_mem (fits : colour.FitsBytes) :
    16 ≤ blueLevel colour.red colour.green colour.blue ∧
      blueLevel colour.red colour.green colour.blue ≤ 240 := by
  obtain ⟨red, green, blue⟩ := fits
  simp only [blueLevel, Int.shiftRight_eq_div_pow]
  omega

private theorem redLevel_mem (fits : colour.FitsBytes) :
    16 ≤ redLevel colour.red colour.green colour.blue ∧
      redLevel colour.red colour.green colour.blue ≤ 240 := by
  obtain ⟨red, green, blue⟩ := fits
  simp only [redLevel, Int.shiftRight_eq_div_pow]
  omega

theorem toNat_luma (fits : colour.FitsBytes) :
    (colour.luma.toNat : Int) = lumaLevel colour.red colour.green colour.blue := by
  obtain ⟨low, high⟩ := lumaLevel_mem fits
  have value : colour.luma = sample (lumaLevel colour.red colour.green colour.blue) := by
    simp only [luma, lumaLevel, Int.shiftRight_eq_div_pow]
    rfl
  rw [value, toNat_sample (by omega) (by omega)]

theorem toNat_blueChroma (fits : colour.FitsBytes) :
    (colour.blueChroma.toNat : Int) = blueLevel colour.red colour.green colour.blue := by
  obtain ⟨low, high⟩ := blueLevel_mem fits
  have value : colour.blueChroma = sample (blueLevel colour.red colour.green colour.blue) := by
    simp only [blueChroma, blueLevel, Int.shiftRight_eq_div_pow]
    rfl
  rw [value, toNat_sample (by omega) (by omega)]

theorem toNat_redChroma (fits : colour.FitsBytes) :
    (colour.redChroma.toNat : Int) = redLevel colour.red colour.green colour.blue := by
  obtain ⟨low, high⟩ := redLevel_mem fits
  have value : colour.redChroma = sample (redLevel colour.red colour.green colour.blue) := by
    simp only [redChroma, redLevel, Int.shiftRight_eq_div_pow]
    rfl
  rw [value, toNat_sample (by omega) (by omega)]

/-- Grey has no chroma. -/
private theorem blueLevel_grey (level : Int) : blueLevel level level level = 128 := by
  simp only [blueLevel, Int.shiftRight_eq_div_pow]
  omega

private theorem redLevel_grey (level : Int) : redLevel level level level = 128 := by
  simp only [redLevel, Int.shiftRight_eq_div_pow]
  omega

end Rgb

namespace I420

open Rgb

/-! ### Blocks -/

def block (width height row column : Nat) : Finset (Nat × Nat) :=
  (Finset.range height ×ˢ Finset.range width).filter fun pixel =>
    pixel.1 / 2 = row ∧ pixel.2 / 2 = column

theorem mem_covered {extent index position : Nat} :
    position ∈ covered extent index ↔ position < extent ∧ position / 2 = index := by
  simp [covered]
  omega

theorem nodup_covered (extent index : Nat) : (covered extent index).Nodup := by
  apply List.Nodup.filter
  simp

private theorem toFinset_covered (width height row column : Nat) :
    (covered height row ×ˢ covered width column).toFinset = block width height row column := by
  ext ⟨y, x⟩
  simp only [List.mem_toFinset, List.mem_product, mem_covered, block, Finset.mem_filter,
    Finset.mem_product, Finset.mem_range]
  omega

theorem blockColours_eq_map (pixel : Nat → Nat → Rgb) (width height row column : Nat) :
    blockColours pixel width height row column =
      (covered height row ×ˢ covered width column).map fun place => pixel place.1 place.2 := by
  simp [blockColours, SProd.sprod, List.product, List.map_flatMap, List.map_map, Function.comp_def]

private theorem sum_map_blockColours (channel : Rgb → Nat) (pixel : Nat → Nat → Rgb)
    (width height row column : Nat) :
    ((blockColours pixel width height row column).map channel).sum =
      ∑ place ∈ block width height row column, channel (pixel place.1 place.2) := by
  rw [blockColours_eq_map, List.map_map, ← toFinset_covered]
  have distinct := (nodup_covered height row).product (nodup_covered width column)
  exact (List.sum_toFinset (fun place => channel (pixel place.1 place.2)) distinct).symm

theorem length_blockColours (pixel : Nat → Nat → Rgb) (width height row column : Nat) :
    (blockColours pixel width height row column).length =
      (block width height row column).card := by
  rw [blockColours_eq_map, List.length_map, ← toFinset_covered, List.toFinset_card_of_nodup]
  exact (nodup_covered height row).product (nodup_covered width column)

theorem length_covered {extent index : Nat} (inside : index < chromaExtent extent) :
    (covered extent index).length = 1 ∨ (covered extent index).length = 2 := by
  unfold chromaExtent at inside
  by_cases second : 2 * index + 1 < extent
  · simp [covered, second, show 2 * index < extent by omega]
  · simp [covered, second, show 2 * index < extent by omega]

private theorem card_block {width height row column : Nat} (below : row < chromaExtent height)
    (before : column < chromaExtent width) :
    (block width height row column).card = 1 ∨ (block width height row column).card = 2 ∨
      (block width height row column).card = 4 := by
  rw [← length_blockColours fun _ _ => ⟨0, 0, 0⟩, blockColours_eq_map, List.length_map,
    List.length_product]
  rcases length_covered below with one | two
  · rcases length_covered before with one' | two'
    · simp [one, one']
    · simp [one, two']
  · rcases length_covered before with one' | two'
    · simp [two, one']
    · simp [two, two']

/-! ### Averages -/

private theorem foldr_add (colours : List Rgb) :
    colours.foldr add { red := 0, green := 0, blue := 0 } =
      { red := (colours.map Rgb.red).sum
        green := (colours.map Rgb.green).sum
        blue := (colours.map Rgb.blue).sum } := by
  induction colours with
  | nil => rfl
  | cons colour rest ih => simp [ih, add]

def blockMean (width height row column : Nat) (channel : Nat × Nat → Nat) : Nat :=
  (∑ place ∈ block width height row column, channel place) / (block width height row column).card

private theorem average_blockColours (pixel : Nat → Nat → Rgb) (width height row column : Nat) :
    average (blockColours pixel width height row column) =
      { red := blockMean width height row column fun place => (pixel place.1 place.2).red
        green := blockMean width height row column fun place => (pixel place.1 place.2).green
        blue := blockMean width height row column fun place => (pixel place.1 place.2).blue } := by
  simp only [average, foldr_add, sum_map_blockColours, length_blockColours, blockMean]

private theorem blockMean_le {width height row column bound : Nat} {channel : Nat × Nat → Nat}
    (bounded : ∀ place, channel place ≤ bound) :
    blockMean width height row column channel ≤ bound := by
  apply Nat.div_le_of_le_mul
  have total := Finset.sum_le_card_nsmul (block width height row column) channel bound
    fun place _ => bounded place
  rwa [smul_eq_mul] at total

/-! ### Packed bytes -/

/-- One channel of a pixel, row first, in rows of packed bytes. -/
def channel (rgb : Bytes) (width index : Nat) (pixel : Nat × Nat) : Nat :=
  (rgb[3 * (pixel.1 * width + pixel.2) + index]?.getD 0).toNat

private theorem channel_le (rgb : Bytes) (width index : Nat) (pixel : Nat × Nat) :
    channel rgb width index pixel ≤ 255 := by
  have bound := (rgb[3 * (pixel.1 * width + pixel.2) + index]?.getD 0).toNat_lt
  unfold channel
  omega

theorem ofBytes_eq (rgb : Bytes) (width row column : Nat) :
    Rgb.ofBytes rgb.toArray width row column =
      { red := channel rgb width 0 (row, column)
        green := channel rgb width 1 (row, column)
        blue := channel rgb width 2 (row, column) } := by
  simp [Rgb.ofBytes, channel]

/-- The bytes of a pixel in the picture are among those that the picture needs. -/
private theorem place_lt {width height row column index : Nat} (below : row < height)
    (before : column < width) (channel : index < 3) :
    3 * (row * width + column) + index < 3 * width * height := by
  have rows : (row + 1) * width ≤ height * width := Nat.mul_le_mul_right width below
  have total : 3 * width * height = 3 * (height * width) := by rw [Nat.mul_assoc, Nat.mul_comm width]
  rw [Nat.succ_mul] at rows
  omega

private theorem exists_byte {rgb : Bytes} {width height row column index : Nat}
    (long : 3 * width * height ≤ rgb.length) (below : row < height) (before : column < width)
    (small : index < 3) :
    ∃ byte, rgb[3 * (row * width + column) + index]? = some byte ∧
      channel rgb width index (row, column) = byte.toNat := by
  have inside := Nat.lt_of_lt_of_le (place_lt below before small) long
  refine ⟨_, List.getElem?_eq_getElem inside, ?_⟩
  rw [channel, List.getElem?_eq_getElem inside, Option.getD_some]

/-! ### Planes -/

private theorem getElem?_plane {width height row column : Nat} (value : Nat → Nat → UInt8)
    (below : row < height) (before : column < width) :
    (plane width height value)[row * width + column]? = some (value row column) := by
  have rows : (row + 1) * width ≤ height * width := Nat.mul_le_mul_right width below
  have inside : row * width + column < width * height := by
    rw [Nat.succ_mul] at rows
    rw [Nat.mul_comm width]
    omega
  have place : (row * width + column) / width = row := by
    rw [Nat.mul_comm, Nat.mul_add_div (by omega), Nat.div_eq_of_lt before, Nat.add_zero]
  have rest : (row * width + column) % width = column := by
    rw [Nat.mul_comm, Nat.mul_add_mod, Nat.mod_eq_of_lt before]
  simp [plane, inside, place, rest]

private theorem exists_of_mem_plane {width height : Nat} {value : Nat → Nat → UInt8}
    {sample : UInt8} (member : sample ∈ plane width height value) :
    ∃ row < height, ∃ column < width, sample = value row column := by
  simp only [plane, List.mem_map, List.mem_range] at member
  obtain ⟨place, inside, rfl⟩ := member
  have wide : 0 < width := Nat.pos_of_mul_pos_right (by omega : 0 < width * height)
  exact ⟨place / width, Nat.div_lt_of_lt_mul inside, place % width, Nat.mod_lt place wide, rfl⟩

theorem plane_congr {width height : Nat} {value value' : Nat → Nat → UInt8}
    (same : ∀ row < height, ∀ column < width, value row column = value' row column) :
    plane width height value = plane width height value' := by
  apply List.map_congr_left
  intro place member
  rw [List.mem_range] at member
  have wide : 0 < width := Nat.pos_of_mul_pos_right (by omega : 0 < width * height)
  exact same _ (Nat.div_lt_of_lt_mul member) _ (Nat.mod_lt place wide)

private theorem y_ofPixels (width height : Nat) (pixel : Nat → Nat → Rgb) :
    (ofPixels width height pixel).y =
      plane width height fun row column => (pixel row column).luma := rfl

private theorem u_ofPixels (width height : Nat) (pixel : Nat → Nat → Rgb) :
    (ofPixels width height pixel).u =
      plane ((width + 1) / 2) ((height + 1) / 2) fun row column =>
        (average (blockColours pixel width height row column)).blueChroma := rfl

private theorem v_ofPixels (width height : Nat) (pixel : Nat → Nat → Rgb) :
    (ofPixels width height pixel).v =
      plane ((width + 1) / 2) ((height + 1) / 2) fun row column =>
        (average (blockColours pixel width height row column)).redChroma := rfl

theorem blockColours_congr {width height row column : Nat} {pixel pixel' : Nat → Nat → Rgb}
    (same : ∀ row < height, ∀ column < width, pixel row column = pixel' row column) :
    blockColours pixel width height row column = blockColours pixel' width height row column := by
  rw [blockColours_eq_map, blockColours_eq_map]
  apply List.map_congr_left
  rintro ⟨y, x⟩ member
  obtain ⟨inRows, inColumns⟩ := List.mem_product.mp member
  exact same y (mem_covered.mp inRows).1 x (mem_covered.mp inColumns).1

theorem ofPixels_congr {width height : Nat} {pixel pixel' : Nat → Nat → Rgb}
    (same : ∀ row < height, ∀ column < width, pixel row column = pixel' row column) :
    ofPixels width height pixel = ofPixels width height pixel' := by
  have luma : plane width height (fun row column => (pixel row column).luma) =
      plane width height fun row column => (pixel' row column).luma := by
    apply plane_congr
    intro row below column before
    rw [same row below column before]
  have blocks (row column : Nat) : blockColours pixel width height row column =
      blockColours pixel' width height row column := blockColours_congr same
  simp only [ofPixels, luma, blocks]

/-! ### The whole picture -/

def channelMean (rgb : Bytes) (width height row column index : Nat) : Nat :=
  blockMean width height row column (channel rgb width index)

structure IsConverted (width height : Nat) (rgb : Bytes) (picture : I420) : Prop where
  width_eq : picture.width = width
  height_eq : picture.height = height
  length_y : picture.y.length = width * height
  length_u : picture.u.length = (width + 1) / 2 * ((height + 1) / 2)
  length_v : picture.v.length = (width + 1) / 2 * ((height + 1) / 2)
  luma : ∀ row < height, ∀ column < width, ∃ red green blue sample,
    rgb[3 * (row * width + column)]? = some red ∧
      rgb[3 * (row * width + column) + 1]? = some green ∧
      rgb[3 * (row * width + column) + 2]? = some blue ∧
      picture.y[row * width + column]? = some sample ∧
      (sample.toNat : Int) = lumaLevel red.toNat green.toNat blue.toNat
  blueChroma : ∀ row < (height + 1) / 2, ∀ column < (width + 1) / 2, ∃ sample,
    picture.u[row * ((width + 1) / 2) + column]? = some sample ∧
      (sample.toNat : Int) = blueLevel (channelMean rgb width height row column 0)
        (channelMean rgb width height row column 1) (channelMean rgb width height row column 2)
  redChroma : ∀ row < (height + 1) / 2, ∀ column < (width + 1) / 2, ∃ sample,
    picture.v[row * ((width + 1) / 2) + column]? = some sample ∧
      (sample.toNat : Int) = redLevel (channelMean rgb width height row column 0)
        (channelMean rgb width height row column 1) (channelMean rgb width height row column 2)

variable {width height : Nat} {rgb : Bytes}

private theorem fitsBytes_ofBytes (row column : Nat) :
    (Rgb.ofBytes rgb.toArray width row column).FitsBytes := by
  rw [ofBytes_eq]
  exact ⟨channel_le .., channel_le .., channel_le ..⟩

private theorem average_ofBytes (row column : Nat) :
    average (blockColours (Rgb.ofBytes rgb.toArray width) width height row column) =
      { red := channelMean rgb width height row column 0
        green := channelMean rgb width height row column 1
        blue := channelMean rgb width height row column 2 } := by
  simp only [average_blockColours, ofBytes_eq]
  rfl

private theorem fitsBytes_average (row column : Nat) :
    (average (blockColours (Rgb.ofBytes rgb.toArray width) width height row column)).FitsBytes := by
  rw [average_ofBytes]
  exact ⟨blockMean_le (channel_le rgb width 0), blockMean_le (channel_le rgb width 1),
    blockMean_le (channel_le rgb width 2)⟩

theorem ofRgb24_eq_none_iff : ofRgb24 width height rgb = none ↔ rgb.length < 3 * width * height := by
  unfold ofRgb24
  split
  · simp only [true_iff]
    assumption
  · simp only [reduceCtorEq, false_iff]
    assumption

theorem isConverted_ofPixels (long : 3 * width * height ≤ rgb.length) :
    IsConverted width height rgb (ofPixels width height (Rgb.ofBytes rgb.toArray width)) where
  width_eq := rfl
  height_eq := rfl
  length_y := by rw [y_ofPixels, length_plane]
  length_u := by rw [u_ofPixels, length_plane]
  length_v := by rw [v_ofPixels, length_plane]
  luma := by
    intro row below column before
    obtain ⟨red, atRed, redLevel⟩ := exists_byte long below before (show 0 < 3 by omega)
    obtain ⟨green, atGreen, greenLevel⟩ := exists_byte long below before (show 1 < 3 by omega)
    obtain ⟨blue, atBlue, blueLevel⟩ := exists_byte long below before (show 2 < 3 by omega)
    refine ⟨red, green, blue, (Rgb.ofBytes rgb.toArray width row column).luma, atRed, atGreen,
      atBlue, ?_, ?_⟩
    · rw [y_ofPixels]
      exact getElem?_plane _ below before
    · rw [toNat_luma (fitsBytes_ofBytes row column), ofBytes_eq, ← redLevel, ← greenLevel,
        ← blueLevel]
  blueChroma := by
    intro row below column before
    rw [u_ofPixels]
    refine ⟨_, getElem?_plane _ below before, ?_⟩
    rw [toNat_blueChroma (fitsBytes_average row column), average_ofBytes]
  redChroma := by
    intro row below column before
    rw [v_ofPixels]
    refine ⟨_, getElem?_plane _ below before, ?_⟩
    rw [toNat_redChroma (fitsBytes_average row column), average_ofBytes]

/-- No byte behind those of the last pixel has any influence. -/
private theorem ofRgb24_take (long : 3 * width * height ≤ rgb.length) :
    ofRgb24 width height (rgb.take (3 * width * height)) = ofRgb24 width height rgb := by
  have enough : ¬(rgb.take (3 * width * height)).length < 3 * width * height := by
    rw [List.length_take]
    omega
  have pixels : ∀ row < height, ∀ column < width,
      Rgb.ofBytes (rgb.take (3 * width * height)).toArray width row column =
        Rgb.ofBytes rgb.toArray width row column := by
    intro row below column before
    have same (index : Nat) (small : index < 3) :
        channel (rgb.take (3 * width * height)) width index (row, column) =
          channel rgb width index (row, column) := by
      rw [channel, channel, List.getElem?_take_of_lt (place_lt below before small)]
    rw [ofBytes_eq, ofBytes_eq, same 0 (by omega), same 1 (by omega), same 2 (by omega)]
  unfold ofRgb24
  rw [if_neg enough, if_neg (Nat.not_lt.mpr long), ofPixels_congr pixels]

theorem mem_y_ofPixels {sample : UInt8}
    (member : sample ∈ (ofPixels width height (Rgb.ofBytes rgb.toArray width)).y) :
    16 ≤ sample ∧ sample ≤ 235 := by
  rw [y_ofPixels] at member
  obtain ⟨row, _, column, _, rfl⟩ := exists_of_mem_plane member
  have fits : (Rgb.ofBytes rgb.toArray width row column).FitsBytes := fitsBytes_ofBytes row column
  have value := toNat_luma fits
  have range := lumaLevel_mem fits
  rw [UInt8.le_iff_toNat_le, UInt8.le_iff_toNat_le]
  change 16 ≤ _ ∧ _ ≤ 235
  omega

theorem mem_chroma_ofPixels {sample : UInt8}
    (member : sample ∈ (ofPixels width height (Rgb.ofBytes rgb.toArray width)).u ++
      (ofPixels width height (Rgb.ofBytes rgb.toArray width)).v) :
    16 ≤ sample ∧ sample ≤ 240 := by
  rw [UInt8.le_iff_toNat_le, UInt8.le_iff_toNat_le]
  change 16 ≤ _ ∧ _ ≤ 240
  rcases List.mem_append.mp member with inU | inV
  · rw [u_ofPixels] at inU
    obtain ⟨row, _, column, _, rfl⟩ := exists_of_mem_plane inU
    have fits : (average (blockColours (Rgb.ofBytes rgb.toArray width) width height row
        column)).FitsBytes := fitsBytes_average row column
    have value := toNat_blueChroma fits
    have range := blueLevel_mem fits
    omega
  · rw [v_ofPixels] at inV
    obtain ⟨row, _, column, _, rfl⟩ := exists_of_mem_plane inV
    have fits : (average (blockColours (Rgb.ofBytes rgb.toArray width) width height row
        column)).FitsBytes := fitsBytes_average row column
    have value := toNat_redChroma fits
    have range := redLevel_mem fits
    omega

theorem channelMean_congr {row column index index' : Nat}
    (same : ∀ pixel ∈ block width height row column,
      channel rgb width index pixel = channel rgb width index' pixel) :
    channelMean rgb width height row column index = channelMean rgb width height row column index' := by
  unfold channelMean blockMean
  rw [Finset.sum_congr rfl same]

/-- A block of grey pixels, not all of one level perhaps, has no chroma. -/
private theorem IsConverted.chroma_grey {picture : I420}
    (converted : IsConverted width height rgb picture)
    {row column : Nat} (below : row < (height + 1) / 2) (before : column < (width + 1) / 2)
    (grey : ∀ pixel ∈ block width height row column,
      channel rgb width 0 pixel = channel rgb width 1 pixel ∧
        channel rgb width 1 pixel = channel rgb width 2 pixel) :
    picture.u[row * ((width + 1) / 2) + column]? = some 128 ∧
      picture.v[row * ((width + 1) / 2) + column]? = some 128 := by
  have redGreen := channelMean_congr fun pixel member => (grey pixel member).1
  have greenBlue := channelMean_congr fun pixel member => (grey pixel member).2
  obtain ⟨blue, atBlue, blueValue⟩ := converted.blueChroma row below column before
  obtain ⟨red, atRed, redValue⟩ := converted.redChroma row below column before
  rw [redGreen, greenBlue, blueLevel_grey] at blueValue
  rw [redGreen, greenBlue, redLevel_grey] at redValue
  have blueGrey : blue = 128 := UInt8.toNat_inj.mp (Int.ofNat_inj.mp blueValue)
  have redGrey : red = 128 := UInt8.toNat_inj.mp (Int.ofNat_inj.mp redValue)
  rw [atBlue, atRed, blueGrey, redGrey]
  exact ⟨rfl, rfl⟩

/-- Packed bytes are refused exactly where they are too few. The picture that they come to holds the
values of the formulas at every place, all of them in the range of video levels, and nothing of the
bytes behind its last pixel. -/
theorem ofRgb24_converts (width height : Nat) (rgb : Bytes) :
    (ofRgb24 width height rgb = none ↔ rgb.length < 3 * width * height) ∧
      (∀ picture, ofRgb24 width height rgb = some picture →
        IsConverted width height rgb picture ∧
          (∀ sample ∈ picture.y, 16 ≤ sample ∧ sample ≤ 235) ∧
          (∀ sample ∈ picture.u ++ picture.v, 16 ≤ sample ∧ sample ≤ 240) ∧
          ∀ row < (height + 1) / 2, ∀ column < (width + 1) / 2,
            (∀ pixel ∈ block width height row column,
              channel rgb width 0 pixel = channel rgb width 1 pixel ∧
                channel rgb width 1 pixel = channel rgb width 2 pixel) →
            picture.u[row * ((width + 1) / 2) + column]? = some 128 ∧
              picture.v[row * ((width + 1) / 2) + column]? = some 128) ∧
      (3 * width * height ≤ rgb.length →
        ofRgb24 width height (rgb.take (3 * width * height)) = ofRgb24 width height rgb) ∧
      ∀ row < (height + 1) / 2, ∀ column < (width + 1) / 2,
        (block width height row column).card = 1 ∨ (block width height row column).card = 2 ∨
          (block width height row column).card = 4 := by
  refine ⟨ofRgb24_eq_none_iff, ?_, ofRgb24_take, fun row below column before =>
    card_block below before⟩
  intro picture found
  have long : ¬rgb.length < 3 * width * height := by
    rw [← ofRgb24_eq_none_iff, found]
    exact Option.some_ne_none picture
  obtain rfl : ofPixels width height (Rgb.ofBytes rgb.toArray width) = picture := by
    rw [ofRgb24, if_neg long] at found
    exact Option.some.inj found
  have converted := isConverted_ofPixels (Nat.le_of_not_lt long)
  exact ⟨converted, fun _ => mem_y_ofPixels, fun _ => mem_chroma_ofPixels,
    fun row below column before => converted.chroma_grey below before⟩

/-- A red, a blue and a grey pixel in one row, with a byte behind them: the second block has the grey
pixel alone. -/
theorem ofRgb24_converts_row_of_three :
    ofRgb24 3 1 [255, 0, 0, 0, 0, 255, 7, 7, 7, 99] =
        some ⟨3, 1, [82, 41, 22], [165, 128], [175, 128]⟩ ∧
      IsConverted 3 1 [255, 0, 0, 0, 0, 255, 7, 7, 7, 99]
        ⟨3, 1, [82, 41, 22], [165, 128], [175, 128]⟩ ∧
      ofRgb24 3 1 [255, 0, 0, 0, 0, 255, 7, 7, 7] =
        ofRgb24 3 1 [255, 0, 0, 0, 0, 255, 7, 7, 7, 99] := by
  have found : ofRgb24 3 1 [255, 0, 0, 0, 0, 255, 7, 7, 7, 99] =
      some ⟨3, 1, [82, 41, 22], [165, 128], [175, 128]⟩ := by decide
  obtain ⟨_, converts, ignoresRest, _⟩ :=
    ofRgb24_converts 3 1 [255, 0, 0, 0, 0, 255, 7, 7, 7, 99]
  exact ⟨found, (converts _ found).1, ignoresRest (by decide)⟩

end I420
end VideoIngest
