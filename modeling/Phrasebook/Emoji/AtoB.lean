/-!
# Names of emoji, to b

The names of emoji that start with a letter up to b, a digit, a sign or a letter beyond ASCII, each with the
characters it stands for.
-/

namespace Phrasebook.Emoji

def namesAtoB1 : List (String × List Nat) := [
  ("+1", [0x1f44d]), ("-1", [0x1f44e]), ("100", [0x1f4af]), ("1234", [0x1f522]),
  ("1st_place_medal", [0x1f947]), ("2nd_place_medal", [0x1f948]), ("3rd_place_medal", [0x1f949]),
  ("8ball", [0x1f3b1]), ("__1", [0x1f44e]), ("a", [0x1f170]), ("a_button_(blood_type)", [0x1f170]),
  ("ab", [0x1f18e]), ("ab_button_(blood_type)", [0x1f18e]), ("abacus", [0x1f9ee]), ("abc", [0x1f524]),
  ("abcd", [0x1f521]), ("accept", [0x1f251]), ("adhesive_bandage", [0x1fa79]),
  ("admission_tickets", [0x1f39f]), ("adult", [0x1f9d1]), ("adult_dark_skin_tone", [0x1f9d1, 0x1f3ff]),
  ("adult_light_skin_tone", [0x1f9d1, 0x1f3fb]), ("adult_medium-dark_skin_tone", [0x1f9d1, 0x1f3fe]),
  ("adult_medium-light_skin_tone", [0x1f9d1, 0x1f3fc]), ("adult_medium_skin_tone", [0x1f9d1, 0x1f3fd]),
  ("aerial_tramway", [0x1f6a1]), ("afghanistan", [0x1f1e6, 0x1f1eb]), ("airplane", [0x2708]),
  ("airplane_arrival", [0x1f6ec]), ("airplane_arriving", [0x1f6ec]), ("airplane_departure", [0x1f6eb]),
  ("alarm_clock", [0x23f0]), ("albania", [0x1f1e6, 0x1f1f1]), ("alembic", [0x2697]),
  ("algeria", [0x1f1e9, 0x1f1ff]), ("alien", [0x1f47d]), ("alien_monster", [0x1f47e]),
  ("ambulance", [0x1f691]), ("american_football", [0x1f3c8]), ("american_samoa", [0x1f1e6, 0x1f1f8]),
  ("amphora", [0x1f3fa]), ("anchor", [0x2693]), ("andorra", [0x1f1e6, 0x1f1e9]), ("angel", [0x1f47c]),
  ("anger", [0x1f4a2]), ("anger_symbol", [0x1f4a2]), ("angola", [0x1f1e6, 0x1f1f4]), ("angry", [0x1f620]),
  ("angry_face", [0x1f620]), ("angry_face_with_horns", [0x1f47f]), ("anguilla", [0x1f1e6, 0x1f1ee]),
  ("anguished", [0x1f627]), ("anguished_face", [0x1f627]), ("ant", [0x1f41c]),
  ("antarctica", [0x1f1e6, 0x1f1f6]), ("antenna_bars", [0x1f4f6]), ("antigua_&_barbuda", [0x1f1e6, 0x1f1ec]),
  ("anxious_face_with_sweat", [0x1f630]), ("apple", [0x1f34e]), ("aquarius", [0x2652]),
  ("argentina", [0x1f1e6, 0x1f1f7]), ("aries", [0x2648]), ("armenia", [0x1f1e6, 0x1f1f2]),
  ("arrow_backward", [0x25c0]), ("arrow_double_down", [0x23ec]), ("arrow_double_up", [0x23eb]),
  ("arrow_down", [0x2b07]), ("arrow_down_small", [0x1f53d]), ("arrow_forward", [0x25b6]),
  ("arrow_heading_down", [0x2935]), ("arrow_heading_up", [0x2934]), ("arrow_left", [0x2b05]),
  ("arrow_lower_left", [0x2199]), ("arrow_lower_right", [0x2198]), ("arrow_right", [0x27a1]),
  ("arrow_right_hook", [0x21aa]), ("arrow_up", [0x2b06]), ("arrow_up_down", [0x2195]),
  ("arrow_up_small", [0x1f53c]), ("arrow_upper_left", [0x2196]), ("arrow_upper_right", [0x2197]),
  ("arrows_clockwise", [0x1f503]), ("arrows_counterclockwise", [0x1f504]), ("art", [0x1f3a8]),
  ("articulated_lorry", [0x1f69b]), ("artist_palette", [0x1f3a8]), ("aruba", [0x1f1e6, 0x1f1fc]),
  ("ascension_island", [0x1f1e6, 0x1f1e8]), ("astonished", [0x1f632]), ("astonished_face", [0x1f632]),
  ("athletic_shoe", [0x1f45f]), ("atm", [0x1f3e7]), ("atm_sign", [0x1f3e7]), ("atom_symbol", [0x269b]),
  ("australia", [0x1f1e6, 0x1f1fa]), ("austria", [0x1f1e6, 0x1f1f9]), ("auto_rickshaw", [0x1f6fa]),
  ("automobile", [0x1f697]), ("avocado", [0x1f951]), ("axe", [0x1fa93]), ("azerbaijan", [0x1f1e6, 0x1f1ff]),
  ("b", [0x1f171]), ("b_button_(blood_type)", [0x1f171]), ("baby", [0x1f476]), ("baby_angel", [0x1f47c]),
  ("baby_angel_dark_skin_tone", [0x1f47c, 0x1f3ff]), ("baby_angel_light_skin_tone", [0x1f47c, 0x1f3fb]),
  ("baby_angel_medium-dark_skin_tone", [0x1f47c, 0x1f3fe]),
  ("baby_angel_medium-light_skin_tone", [0x1f47c, 0x1f3fc]),
  ("baby_angel_medium_skin_tone", [0x1f47c, 0x1f3fd]), ("baby_bottle", [0x1f37c]), ("baby_chick", [0x1f424]),
  ("baby_dark_skin_tone", [0x1f476, 0x1f3ff]), ("baby_light_skin_tone", [0x1f476, 0x1f3fb]),
  ("baby_medium-dark_skin_tone", [0x1f476, 0x1f3fe]), ("baby_medium-light_skin_tone", [0x1f476, 0x1f3fc]),
  ("baby_medium_skin_tone", [0x1f476, 0x1f3fd]), ("baby_symbol", [0x1f6bc]), ("back", [0x1f519]),
  ("back_arrow", [0x1f519])]

def namesAtoB2 : List (String × List Nat) := [
  ("backhand_index_pointing_down", [0x1f447]),
  ("backhand_index_pointing_down_dark_skin_tone", [0x1f447, 0x1f3ff]),
  ("backhand_index_pointing_down_light_skin_tone", [0x1f447, 0x1f3fb]),
  ("backhand_index_pointing_down_medium-dark_skin_tone", [0x1f447, 0x1f3fe]),
  ("backhand_index_pointing_down_medium-light_skin_tone", [0x1f447, 0x1f3fc]),
  ("backhand_index_pointing_down_medium_skin_tone", [0x1f447, 0x1f3fd]),
  ("backhand_index_pointing_left", [0x1f448]),
  ("backhand_index_pointing_left_dark_skin_tone", [0x1f448, 0x1f3ff]),
  ("backhand_index_pointing_left_light_skin_tone", [0x1f448, 0x1f3fb]),
  ("backhand_index_pointing_left_medium-dark_skin_tone", [0x1f448, 0x1f3fe]),
  ("backhand_index_pointing_left_medium-light_skin_tone", [0x1f448, 0x1f3fc]),
  ("backhand_index_pointing_left_medium_skin_tone", [0x1f448, 0x1f3fd]),
  ("backhand_index_pointing_right", [0x1f449]),
  ("backhand_index_pointing_right_dark_skin_tone", [0x1f449, 0x1f3ff]),
  ("backhand_index_pointing_right_light_skin_tone", [0x1f449, 0x1f3fb]),
  ("backhand_index_pointing_right_medium-dark_skin_tone", [0x1f449, 0x1f3fe]),
  ("backhand_index_pointing_right_medium-light_skin_tone", [0x1f449, 0x1f3fc]),
  ("backhand_index_pointing_right_medium_skin_tone", [0x1f449, 0x1f3fd]),
  ("backhand_index_pointing_up", [0x1f446]),
  ("backhand_index_pointing_up_dark_skin_tone", [0x1f446, 0x1f3ff]),
  ("backhand_index_pointing_up_light_skin_tone", [0x1f446, 0x1f3fb]),
  ("backhand_index_pointing_up_medium-dark_skin_tone", [0x1f446, 0x1f3fe]),
  ("backhand_index_pointing_up_medium-light_skin_tone", [0x1f446, 0x1f3fc]),
  ("backhand_index_pointing_up_medium_skin_tone", [0x1f446, 0x1f3fd]), ("bacon", [0x1f953]),
  ("badger", [0x1f9a1]), ("badminton", [0x1f3f8]), ("badminton_racquet_and_shuttlecock", [0x1f3f8]),
  ("bagel", [0x1f96f]), ("baggage_claim", [0x1f6c4]), ("baguette_bread", [0x1f956]),
  ("bahamas", [0x1f1e7, 0x1f1f8]), ("bahrain", [0x1f1e7, 0x1f1ed]), ("balance_scale", [0x2696]),
  ("bald", [0x1f9b2]), ("bald_man", [0x1f468, 0x200d, 0x1f9b2]), ("bald_woman", [0x1f469, 0x200d, 0x1f9b2]),
  ("ballet_shoes", [0x1fa70]), ("balloon", [0x1f388]), ("ballot_box_with_ballot", [0x1f5f3]),
  ("ballot_box_with_check", [0x2611]), ("bamboo", [0x1f38d]), ("banana", [0x1f34c]), ("bangbang", [0x203c]),
  ("bangladesh", [0x1f1e7, 0x1f1e9]), ("banjo", [0x1fa95]), ("bank", [0x1f3e6]), ("bar_chart", [0x1f4ca]),
  ("barbados", [0x1f1e7, 0x1f1e7]), ("barber", [0x1f488]), ("barber_pole", [0x1f488]), ("baseball", [0x26be]),
  ("basket", [0x1f9fa]), ("basketball", [0x1f3c0]), ("bat", [0x1f987]), ("bath", [0x1f6c0]),
  ("bathtub", [0x1f6c1]), ("battery", [0x1f50b]), ("beach_with_umbrella", [0x1f3d6]),
  ("beaming_face_with_smiling_eyes", [0x1f601]), ("bear", [0x1f43b]), ("bear_face", [0x1f43b]),
  ("bearded_person", [0x1f9d4]), ("bearded_person_dark_skin_tone", [0x1f9d4, 0x1f3ff]),
  ("bearded_person_light_skin_tone", [0x1f9d4, 0x1f3fb]),
  ("bearded_person_medium-dark_skin_tone", [0x1f9d4, 0x1f3fe]),
  ("bearded_person_medium-light_skin_tone", [0x1f9d4, 0x1f3fc]),
  ("bearded_person_medium_skin_tone", [0x1f9d4, 0x1f3fd]), ("beating_heart", [0x1f493]), ("bed", [0x1f6cf]),
  ("bee", [0x1f41d]), ("beer", [0x1f37a]), ("beer_mug", [0x1f37a]), ("beers", [0x1f37b]),
  ("beetle", [0x1f41e]), ("beginner", [0x1f530]), ("belarus", [0x1f1e7, 0x1f1fe]),
  ("belgium", [0x1f1e7, 0x1f1ea]), ("belize", [0x1f1e7, 0x1f1ff]), ("bell", [0x1f514]),
  ("bell_with_slash", [0x1f515]), ("bellhop_bell", [0x1f6ce]), ("benin", [0x1f1e7, 0x1f1ef]),
  ("bento", [0x1f371]), ("bento_box", [0x1f371]), ("bermuda", [0x1f1e7, 0x1f1f2]),
  ("beverage_box", [0x1f9c3]), ("bhutan", [0x1f1e7, 0x1f1f9]), ("bicycle", [0x1f6b2]),
  ("bicyclist", [0x1f6b4]), ("bike", [0x1f6b2]), ("bikini", [0x1f459]), ("billed_cap", [0x1f9e2]),
  ("biohazard", [0x2623]), ("biohazard_sign", [0x2623]), ("bird", [0x1f426]), ("birthday", [0x1f382]),
  ("birthday_cake", [0x1f382]), ("black_circle", [0x26ab]), ("black_circle_for_record", [0x23fa]),
  ("black_flag", [0x1f3f4]), ("black_heart", [0x1f5a4]), ("black_joker", [0x1f0cf]),
  ("black_large_square", [0x2b1b]), ("black_left__pointing_double_triangle_with_vertical_bar", [0x23ee]),
  ("black_medium-small_square", [0x25fe]), ("black_medium_small_square", [0x25fe]),
  ("black_medium_square", [0x25fc]), ("black_nib", [0x2712]),
  ("black_right__pointing_double_triangle_with_vertical_bar", [0x23ed]),
  ("black_right__pointing_triangle_with_double_vertical_bar", [0x23ef]), ("black_small_square", [0x25aa]),
  ("black_square_button", [0x1f532]), ("black_square_for_stop", [0x23f9]),
  ("blond-haired_man", [0x1f471, 0x200d, 0x2642, 0xfe0f]),
  ("blond-haired_man_dark_skin_tone", [0x1f471, 0x1f3ff, 0x200d, 0x2642, 0xfe0f]),
  ("blond-haired_man_light_skin_tone", [0x1f471, 0x1f3fb, 0x200d, 0x2642, 0xfe0f]),
  ("blond-haired_man_medium-dark_skin_tone", [0x1f471, 0x1f3fe, 0x200d, 0x2642, 0xfe0f]),
  ("blond-haired_man_medium-light_skin_tone", [0x1f471, 0x1f3fc, 0x200d, 0x2642, 0xfe0f]),
  ("blond-haired_man_medium_skin_tone", [0x1f471, 0x1f3fd, 0x200d, 0x2642, 0xfe0f])]

def namesAtoB3 : List (String × List Nat) := [
  ("blond-haired_person", [0x1f471]), ("blond-haired_person_dark_skin_tone", [0x1f471, 0x1f3ff]),
  ("blond-haired_person_light_skin_tone", [0x1f471, 0x1f3fb]),
  ("blond-haired_person_medium-dark_skin_tone", [0x1f471, 0x1f3fe]),
  ("blond-haired_person_medium-light_skin_tone", [0x1f471, 0x1f3fc]),
  ("blond-haired_person_medium_skin_tone", [0x1f471, 0x1f3fd]),
  ("blond-haired_woman", [0x1f471, 0x200d, 0x2640, 0xfe0f]),
  ("blond-haired_woman_dark_skin_tone", [0x1f471, 0x1f3ff, 0x200d, 0x2640, 0xfe0f]),
  ("blond-haired_woman_light_skin_tone", [0x1f471, 0x1f3fb, 0x200d, 0x2640, 0xfe0f]),
  ("blond-haired_woman_medium-dark_skin_tone", [0x1f471, 0x1f3fe, 0x200d, 0x2640, 0xfe0f]),
  ("blond-haired_woman_medium-light_skin_tone", [0x1f471, 0x1f3fc, 0x200d, 0x2640, 0xfe0f]),
  ("blond-haired_woman_medium_skin_tone", [0x1f471, 0x1f3fd, 0x200d, 0x2640, 0xfe0f]), ("blossom", [0x1f33c]),
  ("blowfish", [0x1f421]), ("blue_book", [0x1f4d8]), ("blue_car", [0x1f699]), ("blue_circle", [0x1f535]),
  ("blue_heart", [0x1f499]), ("blue_square", [0x1f7e6]), ("blush", [0x1f60a]), ("boar", [0x1f417]),
  ("boat", [0x26f5]), ("bolivia", [0x1f1e7, 0x1f1f4]), ("bomb", [0x1f4a3]), ("bone", [0x1f9b4]),
  ("book", [0x1f4d6]), ("bookmark", [0x1f516]), ("bookmark_tabs", [0x1f4d1]), ("books", [0x1f4da]),
  ("boom", [0x1f4a5]), ("boot", [0x1f462]), ("bosnia_&_herzegovina", [0x1f1e7, 0x1f1e6]),
  ("botswana", [0x1f1e7, 0x1f1fc]), ("bottle_with_popping_cork", [0x1f37e]), ("bouquet", [0x1f490]),
  ("bouvet_island", [0x1f1e7, 0x1f1fb]), ("bow", [0x1f647]), ("bow_and_arrow", [0x1f3f9]),
  ("bowl_with_spoon", [0x1f963]), ("bowling", [0x1f3b3]), ("boxing_glove", [0x1f94a]), ("boy", [0x1f466]),
  ("boy_dark_skin_tone", [0x1f466, 0x1f3ff]), ("boy_light_skin_tone", [0x1f466, 0x1f3fb]),
  ("boy_medium-dark_skin_tone", [0x1f466, 0x1f3fe]), ("boy_medium-light_skin_tone", [0x1f466, 0x1f3fc]),
  ("boy_medium_skin_tone", [0x1f466, 0x1f3fd]), ("brain", [0x1f9e0]), ("brazil", [0x1f1e7, 0x1f1f7]),
  ("bread", [0x1f35e]), ("breast-feeding", [0x1f931]), ("breast-feeding_dark_skin_tone", [0x1f931, 0x1f3ff]),
  ("breast-feeding_light_skin_tone", [0x1f931, 0x1f3fb]),
  ("breast-feeding_medium-dark_skin_tone", [0x1f931, 0x1f3fe]),
  ("breast-feeding_medium-light_skin_tone", [0x1f931, 0x1f3fc]),
  ("breast-feeding_medium_skin_tone", [0x1f931, 0x1f3fd]), ("brick", [0x1f9f1]),
  ("bride_with_veil", [0x1f470]), ("bride_with_veil_dark_skin_tone", [0x1f470, 0x1f3ff]),
  ("bride_with_veil_light_skin_tone", [0x1f470, 0x1f3fb]),
  ("bride_with_veil_medium-dark_skin_tone", [0x1f470, 0x1f3fe]),
  ("bride_with_veil_medium-light_skin_tone", [0x1f470, 0x1f3fc]),
  ("bride_with_veil_medium_skin_tone", [0x1f470, 0x1f3fd]), ("bridge_at_night", [0x1f309]),
  ("briefcase", [0x1f4bc]), ("briefs", [0x1fa72]), ("bright_button", [0x1f506]),
  ("british_indian_ocean_territory", [0x1f1ee, 0x1f1f4]), ("british_virgin_islands", [0x1f1fb, 0x1f1ec]),
  ("broccoli", [0x1f966]), ("broken_heart", [0x1f494]), ("broom", [0x1f9f9]), ("brown_circle", [0x1f7e4]),
  ("brown_heart", [0x1f90e]), ("brown_square", [0x1f7eb]), ("brunei", [0x1f1e7, 0x1f1f3]), ("bug", [0x1f41b]),
  ("building_construction", [0x1f3d7]), ("bulb", [0x1f4a1]), ("bulgaria", [0x1f1e7, 0x1f1ec]),
  ("bullet_train", [0x1f685]), ("bullettrain_front", [0x1f685]), ("bullettrain_side", [0x1f684]),
  ("burkina_faso", [0x1f1e7, 0x1f1eb]), ("burrito", [0x1f32f]), ("burundi", [0x1f1e7, 0x1f1ee]),
  ("bus", [0x1f68c]), ("bus_stop", [0x1f68f]), ("busstop", [0x1f68f]), ("bust_in_silhouette", [0x1f464]),
  ("busts_in_silhouette", [0x1f465]), ("butter", [0x1f9c8]), ("butterfly", [0x1f98b]),
  ("åland_islands", [0x1f1e6, 0x1f1fd])]

def namesAtoB : List (String × List Nat) :=
  namesAtoB1 ++ namesAtoB2 ++ namesAtoB3

end Phrasebook.Emoji
