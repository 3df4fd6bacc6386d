/-!
# Names of emoji, c to e

The names of emoji that start with a letter from c to e, each with the characters it stands for.
-/

namespace Phrasebook.Emoji

def namesCtoE1 : List (String × List Nat) := [
  ("cactus", [0x1f335]), ("cake", [0x1f370]), ("calendar", [0x1f4c6]), ("call_me_hand", [0x1f919]),
  ("call_me_hand_dark_skin_tone", [0x1f919, 0x1f3ff]), ("call_me_hand_light_skin_tone", [0x1f919, 0x1f3fb]),
  ("call_me_hand_medium-dark_skin_tone", [0x1f919, 0x1f3fe]),
  ("call_me_hand_medium-light_skin_tone", [0x1f919, 0x1f3fc]),
  ("call_me_hand_medium_skin_tone", [0x1f919, 0x1f3fd]), ("calling", [0x1f4f2]),
  ("cambodia", [0x1f1f0, 0x1f1ed]), ("camel", [0x1f42b]), ("camera", [0x1f4f7]),
  ("camera_with_flash", [0x1f4f8]), ("cameroon", [0x1f1e8, 0x1f1f2]), ("camping", [0x1f3d5]),
  ("canada", [0x1f1e8, 0x1f1e6]), ("canary_islands", [0x1f1ee, 0x1f1e8]), ("cancer", [0x264b]),
  ("candle", [0x1f56f]), ("candy", [0x1f36c]), ("canned_food", [0x1f96b]), ("canoe", [0x1f6f6]),
  ("cape_verde", [0x1f1e8, 0x1f1fb]), ("capital_abcd", [0x1f520]), ("capricorn", [0x2651]),
  ("car", [0x1f697]), ("card_file_box", [0x1f5c3]), ("card_index", [0x1f4c7]),
  ("card_index_dividers", [0x1f5c2]), ("caribbean_netherlands", [0x1f1e7, 0x1f1f6]),
  ("carousel_horse", [0x1f3a0]), ("carp_streamer", [0x1f38f]), ("carrot", [0x1f955]), ("castle", [0x1f3f0]),
  ("cat", [0x1f431]), ("cat2", [0x1f408]), ("cat_face", [0x1f431]), ("cat_face_with_tears_of_joy", [0x1f639]),
  ("cat_face_with_wry_smile", [0x1f63c]), ("cayman_islands", [0x1f1f0, 0x1f1fe]), ("cd", [0x1f4bf]),
  ("central_african_republic", [0x1f1e8, 0x1f1eb]), ("ceuta_&_melilla", [0x1f1ea, 0x1f1e6]),
  ("chad", [0x1f1f9, 0x1f1e9]), ("chains", [0x26d3]), ("chair", [0x1fa91]), ("chart", [0x1f4b9]),
  ("chart_decreasing", [0x1f4c9]), ("chart_increasing", [0x1f4c8]), ("chart_increasing_with_yen", [0x1f4b9]),
  ("chart_with_downwards_trend", [0x1f4c9]), ("chart_with_upwards_trend", [0x1f4c8]),
  ("checkered_flag", [0x1f3c1]), ("cheese_wedge", [0x1f9c0]), ("chequered_flag", [0x1f3c1]),
  ("cherries", [0x1f352]), ("cherry_blossom", [0x1f338]), ("chess_pawn", [0x265f]), ("chestnut", [0x1f330]),
  ("chicken", [0x1f414]), ("child", [0x1f9d2]), ("child_dark_skin_tone", [0x1f9d2, 0x1f3ff]),
  ("child_light_skin_tone", [0x1f9d2, 0x1f3fb]), ("child_medium-dark_skin_tone", [0x1f9d2, 0x1f3fe]),
  ("child_medium-light_skin_tone", [0x1f9d2, 0x1f3fc]), ("child_medium_skin_tone", [0x1f9d2, 0x1f3fd]),
  ("children_crossing", [0x1f6b8]), ("chile", [0x1f1e8, 0x1f1f1]), ("china", [0x1f1e8, 0x1f1f3]),
  ("chipmunk", [0x1f43f]), ("chocolate_bar", [0x1f36b]), ("chopsticks", [0x1f962]),
  ("christmas_island", [0x1f1e8, 0x1f1fd]), ("christmas_tree", [0x1f384]), ("church", [0x26ea]),
  ("cigarette", [0x1f6ac]), ("cinema", [0x1f3a6]), ("circled_m", [0x24c2]), ("circus_tent", [0x1f3aa]),
  ("city_sunrise", [0x1f307]), ("city_sunset", [0x1f306]), ("cityscape", [0x1f3d9]),
  ("cityscape_at_dusk", [0x1f306]), ("cl", [0x1f191]), ("cl_button", [0x1f191]), ("clamp", [0x1f5dc]),
  ("clap", [0x1f44f]), ("clapper", [0x1f3ac]), ("clapper_board", [0x1f3ac]), ("clapping_hands", [0x1f44f]),
  ("clapping_hands_dark_skin_tone", [0x1f44f, 0x1f3ff]),
  ("clapping_hands_light_skin_tone", [0x1f44f, 0x1f3fb]),
  ("clapping_hands_medium-dark_skin_tone", [0x1f44f, 0x1f3fe]),
  ("clapping_hands_medium-light_skin_tone", [0x1f44f, 0x1f3fc]),
  ("clapping_hands_medium_skin_tone", [0x1f44f, 0x1f3fd]), ("classical_building", [0x1f3db]),
  ("clinking_beer_mugs", [0x1f37b]), ("clinking_glasses", [0x1f942]), ("clipboard", [0x1f4cb]),
  ("clipperton_island", [0x1f1e8, 0x1f1f5]), ("clock1", [0x1f550]), ("clock10", [0x1f559]),
  ("clock1030", [0x1f565]), ("clock11", [0x1f55a]), ("clock1130", [0x1f566]), ("clock12", [0x1f55b]),
  ("clock1230", [0x1f567]), ("clock130", [0x1f55c]), ("clock2", [0x1f551]), ("clock230", [0x1f55d]),
  ("clock3", [0x1f552]), ("clock330", [0x1f55e]), ("clock4", [0x1f553]), ("clock430", [0x1f55f]),
  ("clock5", [0x1f554]), ("clock530", [0x1f560]), ("clock6", [0x1f555]), ("clock630", [0x1f561]),
  ("clock7", [0x1f556])]

def namesCtoE2 : List (String × List Nat) := [
  ("clock730", [0x1f562]), ("clock8", [0x1f557]), ("clock830", [0x1f563]), ("clock9", [0x1f558]),
  ("clock930", [0x1f564]), ("clockwise_vertical_arrows", [0x1f503]), ("closed_book", [0x1f4d5]),
  ("closed_lock_with_key", [0x1f510]), ("closed_mailbox_with_lowered_flag", [0x1f4ea]),
  ("closed_mailbox_with_raised_flag", [0x1f4eb]), ("closed_umbrella", [0x1f302]), ("cloud", [0x2601]),
  ("cloud_with_lightning", [0x1f329]), ("cloud_with_lightning_and_rain", [0x26c8]),
  ("cloud_with_rain", [0x1f327]), ("cloud_with_snow", [0x1f328]), ("cloud_with_tornado", [0x1f32a]),
  ("clown_face", [0x1f921]), ("club_suit", [0x2663]), ("clubs", [0x2663]), ("clutch_bag", [0x1f45d]),
  ("coat", [0x1f9e5]), ("cocktail", [0x1f378]), ("cocktail_glass", [0x1f378]), ("coconut", [0x1f965]),
  ("cocos_(keeling)_islands", [0x1f1e8, 0x1f1e8]), ("coffee", [0x2615]), ("coffin", [0x26b0]),
  ("cold_face", [0x1f976]), ("cold_sweat", [0x1f630]), ("collision", [0x1f4a5]),
  ("colombia", [0x1f1e8, 0x1f1f4]), ("comet", [0x2604]), ("comoros", [0x1f1f0, 0x1f1f2]),
  ("compass", [0x1f9ed]), ("compression", [0x1f5dc]), ("computer", [0x1f4bb]), ("computer_disk", [0x1f4bd]),
  ("computer_mouse", [0x1f5b1]), ("confetti_ball", [0x1f38a]), ("confounded", [0x1f616]),
  ("confounded_face", [0x1f616]), ("confused", [0x1f615]), ("confused_face", [0x1f615]),
  ("congo_-_brazzaville", [0x1f1e8, 0x1f1ec]), ("congo_-_kinshasa", [0x1f1e8, 0x1f1e9]),
  ("congratulations", [0x3297]), ("construction", [0x1f6a7]), ("construction_worker", [0x1f477]),
  ("construction_worker_dark_skin_tone", [0x1f477, 0x1f3ff]),
  ("construction_worker_light_skin_tone", [0x1f477, 0x1f3fb]),
  ("construction_worker_medium-dark_skin_tone", [0x1f477, 0x1f3fe]),
  ("construction_worker_medium-light_skin_tone", [0x1f477, 0x1f3fc]),
  ("construction_worker_medium_skin_tone", [0x1f477, 0x1f3fd]), ("control_knobs", [0x1f39b]),
  ("convenience_store", [0x1f3ea]), ("cook_islands", [0x1f1e8, 0x1f1f0]), ("cooked_rice", [0x1f35a]),
  ("cookie", [0x1f36a]), ("cooking", [0x1f373]), ("cool", [0x1f192]), ("cool_button", [0x1f192]),
  ("cop", [0x1f46e]), ("copyright", [0xa9]), ("corn", [0x1f33d]), ("costa_rica", [0x1f1e8, 0x1f1f7]),
  ("couch_and_lamp", [0x1f6cb]), ("counterclockwise_arrows_button", [0x1f504]), ("couple", [0x1f46b]),
  ("couple_with_heart", [0x1f491]),
  ("couple_with_heart_man_man", [0x1f468, 0x200d, 0x2764, 0xfe0f, 0x200d, 0x1f468]),
  ("couple_with_heart_woman_man", [0x1f469, 0x200d, 0x2764, 0xfe0f, 0x200d, 0x1f468]),
  ("couple_with_heart_woman_woman", [0x1f469, 0x200d, 0x2764, 0xfe0f, 0x200d, 0x1f469]),
  ("couplekiss", [0x1f48f]), ("cow", [0x1f42e]), ("cow2", [0x1f404]), ("cow_face", [0x1f42e]),
  ("cowboy_hat_face", [0x1f920]), ("crab", [0x1f980]), ("crayon", [0x1f58d]), ("credit_card", [0x1f4b3]),
  ("crescent_moon", [0x1f319]), ("cricket", [0x1f997]), ("cricket_bat_and_ball", [0x1f3cf]),
  ("cricket_game", [0x1f3cf]), ("croatia", [0x1f1ed, 0x1f1f7]), ("crocodile", [0x1f40a]),
  ("croissant", [0x1f950]), ("cross_mark", [0x274c]), ("cross_mark_button", [0x274e]),
  ("crossed_fingers", [0x1f91e]), ("crossed_fingers_dark_skin_tone", [0x1f91e, 0x1f3ff]),
  ("crossed_fingers_light_skin_tone", [0x1f91e, 0x1f3fb]),
  ("crossed_fingers_medium-dark_skin_tone", [0x1f91e, 0x1f3fe]),
  ("crossed_fingers_medium-light_skin_tone", [0x1f91e, 0x1f3fc]),
  ("crossed_fingers_medium_skin_tone", [0x1f91e, 0x1f3fd]), ("crossed_flags", [0x1f38c]),
  ("crossed_swords", [0x2694]), ("crown", [0x1f451]), ("cry", [0x1f622]), ("crying_cat_face", [0x1f63f]),
  ("crying_face", [0x1f622]), ("crystal_ball", [0x1f52e]), ("cuba", [0x1f1e8, 0x1f1fa]),
  ("cucumber", [0x1f952]), ("cup_with_straw", [0x1f964]), ("cupcake", [0x1f9c1]), ("cupid", [0x1f498]),
  ("curaçao", [0x1f1e8, 0x1f1fc]), ("curling_stone", [0x1f94c]),
  ("curly-haired_man", [0x1f468, 0x200d, 0x1f9b1]), ("curly-haired_woman", [0x1f469, 0x200d, 0x1f9b1]),
  ("curly_hair", [0x1f9b1]), ("curly_loop", [0x27b0]), ("currency_exchange", [0x1f4b1]), ("curry", [0x1f35b]),
  ("curry_rice", [0x1f35b]), ("custard", [0x1f36e]), ("customs", [0x1f6c3]), ("cut_of_meat", [0x1f969])]

def namesCtoE3 : List (String × List Nat) := [
  ("cyclone", [0x1f300]), ("cyprus", [0x1f1e8, 0x1f1fe]), ("czechia", [0x1f1e8, 0x1f1ff]),
  ("côte_d’ivoire", [0x1f1e8, 0x1f1ee]), ("dagger", [0x1f5e1]), ("dagger_knife", [0x1f5e1]),
  ("dancer", [0x1f483]), ("dancers", [0x1f46f]), ("dango", [0x1f361]), ("dark_skin_tone", [0x1f3ff]),
  ("dark_sunglasses", [0x1f576]), ("dart", [0x1f3af]), ("dash", [0x1f4a8]), ("dashing_away", [0x1f4a8]),
  ("date", [0x1f4c5]), ("deaf_person", [0x1f9cf]), ("deciduous_tree", [0x1f333]), ("deer", [0x1f98c]),
  ("delivery_truck", [0x1f69a]), ("denmark", [0x1f1e9, 0x1f1f0]), ("department_store", [0x1f3ec]),
  ("derelict_house", [0x1f3da]), ("derelict_house_building", [0x1f3da]), ("desert", [0x1f3dc]),
  ("desert_island", [0x1f3dd]), ("desktop_computer", [0x1f5a5]), ("detective", [0x1f575]),
  ("detective_dark_skin_tone", [0x1f575, 0x1f3ff]), ("detective_light_skin_tone", [0x1f575, 0x1f3fb]),
  ("detective_medium-dark_skin_tone", [0x1f575, 0x1f3fe]),
  ("detective_medium-light_skin_tone", [0x1f575, 0x1f3fc]),
  ("detective_medium_skin_tone", [0x1f575, 0x1f3fd]), ("diamond_shape_with_a_dot_inside", [0x1f4a0]),
  ("diamond_suit", [0x2666]), ("diamond_with_a_dot", [0x1f4a0]), ("diamonds", [0x2666]),
  ("diego_garcia", [0x1f1e9, 0x1f1ec]), ("dim_button", [0x1f505]), ("direct_hit", [0x1f3af]),
  ("disappointed", [0x1f61e]), ("disappointed_face", [0x1f61e]), ("disappointed_relieved", [0x1f625]),
  ("diving_mask", [0x1f93f]), ("diya_lamp", [0x1fa94]), ("dizzy", [0x1f4ab]), ("dizzy_face", [0x1f635]),
  ("djibouti", [0x1f1e9, 0x1f1ef]), ("dna", [0x1f9ec]), ("do_not_litter", [0x1f6af]), ("dog", [0x1f436]),
  ("dog2", [0x1f415]), ("dog_face", [0x1f436]), ("dollar", [0x1f4b5]), ("dollar_banknote", [0x1f4b5]),
  ("dolls", [0x1f38e]), ("dolphin", [0x1f42c]), ("dominica", [0x1f1e9, 0x1f1f2]),
  ("dominican_republic", [0x1f1e9, 0x1f1f4]), ("door", [0x1f6aa]), ("dotted_six-pointed_star", [0x1f52f]),
  ("double_curly_loop", [0x27bf]), ("double_exclamation_mark", [0x203c]), ("double_vertical_bar", [0x23f8]),
  ("doughnut", [0x1f369]), ("dove", [0x1f54a]), ("dove_of_peace", [0x1f54a]), ("down-left_arrow", [0x2199]),
  ("down-right_arrow", [0x2198]), ("down_arrow", [0x2b07]), ("downcast_face_with_sweat", [0x1f613]),
  ("downwards_button", [0x1f53d]), ("dragon", [0x1f409]), ("dragon_face", [0x1f432]), ("dress", [0x1f457]),
  ("dromedary_camel", [0x1f42a]), ("drooling_face", [0x1f924]), ("drop_of_blood", [0x1fa78]),
  ("droplet", [0x1f4a7]), ("drum", [0x1f941]), ("duck", [0x1f986]), ("dumpling", [0x1f95f]),
  ("dvd", [0x1f4c0]), ("e-mail", [0x1f4e7]), ("e__mail", [0x1f4e7]), ("eagle", [0x1f985]), ("ear", [0x1f442]),
  ("ear_dark_skin_tone", [0x1f442, 0x1f3ff]), ("ear_light_skin_tone", [0x1f442, 0x1f3fb]),
  ("ear_medium-dark_skin_tone", [0x1f442, 0x1f3fe]), ("ear_medium-light_skin_tone", [0x1f442, 0x1f3fc]),
  ("ear_medium_skin_tone", [0x1f442, 0x1f3fd]), ("ear_of_corn", [0x1f33d]), ("ear_of_rice", [0x1f33e]),
  ("ear_with_hearing_aid", [0x1f9bb]), ("earth_africa", [0x1f30d]), ("earth_americas", [0x1f30e]),
  ("earth_asia", [0x1f30f]), ("ecuador", [0x1f1ea, 0x1f1e8]), ("egg", [0x1f373]), ("eggplant", [0x1f346]),
  ("egypt", [0x1f1ea, 0x1f1ec]), ("eight", [0x38, 0xfe0f, 0x20e3]), ("eight-pointed_star", [0x2734]),
  ("eight-spoked_asterisk", [0x2733]), ("eight-thirty", [0x1f563]), ("eight_o’clock", [0x1f557]),
  ("eight_pointed_black_star", [0x2734]), ("eight_spoked_asterisk", [0x2733]), ("eject_button", [0x23cf]),
  ("eject_symbol", [0x23cf]), ("el_salvador", [0x1f1f8, 0x1f1fb]), ("electric_plug", [0x1f50c]),
  ("elephant", [0x1f418]), ("eleven-thirty", [0x1f566]), ("eleven_o’clock", [0x1f55a]), ("elf", [0x1f9dd]),
  ("elf_dark_skin_tone", [0x1f9dd, 0x1f3ff]), ("elf_light_skin_tone", [0x1f9dd, 0x1f3fb]),
  ("elf_medium-dark_skin_tone", [0x1f9dd, 0x1f3fe]), ("elf_medium-light_skin_tone", [0x1f9dd, 0x1f3fc])]

def namesCtoE4 : List (String × List Nat) := [
  ("elf_medium_skin_tone", [0x1f9dd, 0x1f3fd]), ("email", [0x2709]),
  ("emoji_modifier_fitzpatrick_type__1__2", [0x1f3fb]), ("emoji_modifier_fitzpatrick_type__3", [0x1f3fc]),
  ("emoji_modifier_fitzpatrick_type__4", [0x1f3fd]), ("emoji_modifier_fitzpatrick_type__5", [0x1f3fe]),
  ("emoji_modifier_fitzpatrick_type__6", [0x1f3ff]), ("end", [0x1f51a]), ("end_arrow", [0x1f51a]),
  ("england", [0x1f3f4, 0xe0067, 0xe0062, 0xe0065, 0xe006e, 0xe0067, 0xe007f]), ("envelope", [0x2709]),
  ("envelope_with_arrow", [0x1f4e9]), ("equatorial_guinea", [0x1f1ec, 0x1f1f6]),
  ("eritrea", [0x1f1ea, 0x1f1f7]), ("estonia", [0x1f1ea, 0x1f1ea]), ("ethiopia", [0x1f1ea, 0x1f1f9]),
  ("euro", [0x1f4b6]), ("euro_banknote", [0x1f4b6]), ("european_castle", [0x1f3f0]),
  ("european_post_office", [0x1f3e4]), ("european_union", [0x1f1ea, 0x1f1fa]), ("evergreen_tree", [0x1f332]),
  ("ewe", [0x1f411]), ("exclamation", [0x2757]), ("exclamation_mark", [0x2757]),
  ("exclamation_question_mark", [0x2049]), ("exploding_head", [0x1f92f]), ("expressionless", [0x1f611]),
  ("expressionless_face", [0x1f611]), ("eye", [0x1f441]),
  ("eye_in_speech_bubble", [0x1f441, 0xfe0f, 0x200d, 0x1f5e8, 0xfe0f]), ("eyeglasses", [0x1f453]),
  ("eyes", [0x1f440])]

def namesCtoE : List (String × List Nat) :=
  namesCtoE1 ++ namesCtoE2 ++ namesCtoE3 ++ namesCtoE4

end Phrasebook.Emoji
