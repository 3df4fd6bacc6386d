/-!
# Names of emoji, g to l

The names of emoji that start with a letter from g to l, each with the characters it stands for.
-/

namespace Phrasebook.Emoji

def namesGtoL1 : List (String × List Nat) := [
  ("gabon", [0x1f1ec, 0x1f1e6]), ("gambia", [0x1f1ec, 0x1f1f2]), ("game_die", [0x1f3b2]),
  ("garlic", [0x1f9c4]), ("gear", [0x2699]), ("gem", [0x1f48e]), ("gem_stone", [0x1f48e]),
  ("gemini", [0x264a]), ("genie", [0x1f9de]), ("georgia", [0x1f1ec, 0x1f1ea]),
  ("germany", [0x1f1e9, 0x1f1ea]), ("ghana", [0x1f1ec, 0x1f1ed]), ("ghost", [0x1f47b]),
  ("gibraltar", [0x1f1ec, 0x1f1ee]), ("gift", [0x1f381]), ("gift_heart", [0x1f49d]), ("giraffe", [0x1f992]),
  ("girl", [0x1f467]), ("girl_dark_skin_tone", [0x1f467, 0x1f3ff]),
  ("girl_light_skin_tone", [0x1f467, 0x1f3fb]), ("girl_medium-dark_skin_tone", [0x1f467, 0x1f3fe]),
  ("girl_medium-light_skin_tone", [0x1f467, 0x1f3fc]), ("girl_medium_skin_tone", [0x1f467, 0x1f3fd]),
  ("glass_of_milk", [0x1f95b]), ("glasses", [0x1f453]), ("globe_showing_americas", [0x1f30e]),
  ("globe_showing_asia-australia", [0x1f30f]), ("globe_showing_europe-africa", [0x1f30d]),
  ("globe_with_meridians", [0x1f310]), ("gloves", [0x1f9e4]), ("glowing_star", [0x1f31f]),
  ("goal_net", [0x1f945]), ("goat", [0x1f410]), ("goblin", [0x1f47a]), ("goggles", [0x1f97d]),
  ("golf", [0x26f3]), ("golfer", [0x1f3cc]), ("gorilla", [0x1f98d]), ("graduation_cap", [0x1f393]),
  ("grapes", [0x1f347]), ("greece", [0x1f1ec, 0x1f1f7]), ("green_apple", [0x1f34f]),
  ("green_book", [0x1f4d7]), ("green_circle", [0x1f7e2]), ("green_heart", [0x1f49a]),
  ("green_salad", [0x1f957]), ("green_square", [0x1f7e9]), ("greenland", [0x1f1ec, 0x1f1f1]),
  ("grenada", [0x1f1ec, 0x1f1e9]), ("grey_exclamation", [0x2755]), ("grey_question", [0x2754]),
  ("grimacing", [0x1f62c]), ("grimacing_face", [0x1f62c]), ("grin", [0x1f601]), ("grinning", [0x1f600]),
  ("grinning_cat_face", [0x1f63a]), ("grinning_cat_face_with_smiling_eyes", [0x1f638]),
  ("grinning_face", [0x1f600]), ("grinning_face_with_big_eyes", [0x1f603]),
  ("grinning_face_with_smiling_eyes", [0x1f604]), ("grinning_face_with_sweat", [0x1f605]),
  ("grinning_squinting_face", [0x1f606]), ("growing_heart", [0x1f497]), ("guadeloupe", [0x1f1ec, 0x1f1f5]),
  ("guam", [0x1f1ec, 0x1f1fa]), ("guard", [0x1f482]), ("guard_dark_skin_tone", [0x1f482, 0x1f3ff]),
  ("guard_light_skin_tone", [0x1f482, 0x1f3fb]), ("guard_medium-dark_skin_tone", [0x1f482, 0x1f3fe]),
  ("guard_medium-light_skin_tone", [0x1f482, 0x1f3fc]), ("guard_medium_skin_tone", [0x1f482, 0x1f3fd]),
  ("guardsman", [0x1f482]), ("guatemala", [0x1f1ec, 0x1f1f9]), ("guernsey", [0x1f1ec, 0x1f1ec]),
  ("guide_dog", [0x1f9ae]), ("guinea", [0x1f1ec, 0x1f1f3]), ("guinea-bissau", [0x1f1ec, 0x1f1fc]),
  ("guitar", [0x1f3b8]), ("gun", [0x1f52b]), ("guyana", [0x1f1ec, 0x1f1fe]), ("haircut", [0x1f487]),
  ("haiti", [0x1f1ed, 0x1f1f9]), ("hamburger", [0x1f354]), ("hammer", [0x1f528]),
  ("hammer_and_pick", [0x2692]), ("hammer_and_wrench", [0x1f6e0]), ("hamster", [0x1f439]),
  ("hamster_face", [0x1f439]), ("hand", [0x270b]), ("hand_with_fingers_splayed", [0x1f590]),
  ("hand_with_fingers_splayed_dark_skin_tone", [0x1f590, 0x1f3ff]),
  ("hand_with_fingers_splayed_light_skin_tone", [0x1f590, 0x1f3fb]),
  ("hand_with_fingers_splayed_medium-dark_skin_tone", [0x1f590, 0x1f3fe]),
  ("hand_with_fingers_splayed_medium-light_skin_tone", [0x1f590, 0x1f3fc]),
  ("hand_with_fingers_splayed_medium_skin_tone", [0x1f590, 0x1f3fd]), ("handbag", [0x1f45c]),
  ("handshake", [0x1f91d]), ("hankey", [0x1f4a9]), ("hatched_chick", [0x1f425]),
  ("hatching_chick", [0x1f423]), ("headphone", [0x1f3a7]), ("headphones", [0x1f3a7]),
  ("hear-no-evil_monkey", [0x1f649]), ("hear_no_evil", [0x1f649]),
  ("heard_&_mcdonald_islands", [0x1f1ed, 0x1f1f2]), ("heart", [0x2764]), ("heart_decoration", [0x1f49f]),
  ("heart_eyes", [0x1f60d]), ("heart_eyes_cat", [0x1f63b]), ("heart_suit", [0x2665]),
  ("heart_with_arrow", [0x1f498]), ("heart_with_ribbon", [0x1f49d]), ("heartbeat", [0x1f493]),
  ("heartpulse", [0x1f497]), ("hearts", [0x2665]), ("heavy_check_mark", [0x2714]),
  ("heavy_division_sign", [0x2797]), ("heavy_dollar_sign", [0x1f4b2]), ("heavy_exclamation_mark", [0x2757]),
  ("heavy_heart_exclamation", [0x2763])]

def namesGtoL2 : List (String × List Nat) := [
  ("heavy_heart_exclamation_mark_ornament", [0x2763]), ("heavy_large_circle", [0x2b55]),
  ("heavy_minus_sign", [0x2796]), ("heavy_multiplication_x", [0x2716]), ("heavy_plus_sign", [0x2795]),
  ("hedgehog", [0x1f994]), ("helicopter", [0x1f681]), ("helm_symbol", [0x2388]),
  ("helmet_with_white_cross", [0x26d1]), ("herb", [0x1f33f]), ("hibiscus", [0x1f33a]),
  ("high-heeled_shoe", [0x1f460]), ("high-speed_train", [0x1f684]), ("high_brightness", [0x1f506]),
  ("high_heel", [0x1f460]), ("high_voltage", [0x26a1]), ("hiking_boot", [0x1f97e]),
  ("hindu_temple", [0x1f6d5]), ("hippopotamus", [0x1f99b]), ("hocho", [0x1f52a]), ("hole", [0x1f573]),
  ("honduras", [0x1f1ed, 0x1f1f3]), ("honey_pot", [0x1f36f]), ("honeybee", [0x1f41d]),
  ("hong_kong_sar_china", [0x1f1ed, 0x1f1f0]), ("horizontal_traffic_light", [0x1f6a5]), ("horse", [0x1f434]),
  ("horse_face", [0x1f434]), ("horse_racing", [0x1f3c7]), ("horse_racing_dark_skin_tone", [0x1f3c7, 0x1f3ff]),
  ("horse_racing_light_skin_tone", [0x1f3c7, 0x1f3fb]),
  ("horse_racing_medium-dark_skin_tone", [0x1f3c7, 0x1f3fe]),
  ("horse_racing_medium-light_skin_tone", [0x1f3c7, 0x1f3fc]),
  ("horse_racing_medium_skin_tone", [0x1f3c7, 0x1f3fd]), ("hospital", [0x1f3e5]), ("hot_beverage", [0x2615]),
  ("hot_dog", [0x1f32d]), ("hot_face", [0x1f975]), ("hot_pepper", [0x1f336]), ("hot_springs", [0x2668]),
  ("hotel", [0x1f3e8]), ("hotsprings", [0x2668]), ("hourglass", [0x231b]), ("hourglass_done", [0x231b]),
  ("hourglass_flowing_sand", [0x23f3]), ("hourglass_not_done", [0x23f3]), ("house", [0x1f3e0]),
  ("house_buildings", [0x1f3d8]), ("house_with_garden", [0x1f3e1]), ("houses", [0x1f3d8]),
  ("hugging_face", [0x1f917]), ("hundred_points", [0x1f4af]), ("hungary", [0x1f1ed, 0x1f1fa]),
  ("hushed", [0x1f62f]), ("hushed_face", [0x1f62f]), ("ice", [0x1f9ca]), ("ice_cream", [0x1f368]),
  ("ice_hockey", [0x1f3d2]), ("ice_hockey_stick_and_puck", [0x1f3d2]), ("ice_skate", [0x26f8]),
  ("icecream", [0x1f366]), ("iceland", [0x1f1ee, 0x1f1f8]), ("id", [0x1f194]), ("id_button", [0x1f194]),
  ("ideograph_advantage", [0x1f250]), ("imp", [0x1f47f]), ("inbox_tray", [0x1f4e5]),
  ("incoming_envelope", [0x1f4e8]), ("index_pointing_up", [0x261d]),
  ("index_pointing_up_dark_skin_tone", [0x261d, 0x1f3ff]),
  ("index_pointing_up_light_skin_tone", [0x261d, 0x1f3fb]),
  ("index_pointing_up_medium-dark_skin_tone", [0x261d, 0x1f3fe]),
  ("index_pointing_up_medium-light_skin_tone", [0x261d, 0x1f3fc]),
  ("index_pointing_up_medium_skin_tone", [0x261d, 0x1f3fd]), ("india", [0x1f1ee, 0x1f1f3]),
  ("indonesia", [0x1f1ee, 0x1f1e9]), ("infinity", [0x267e]), ("information", [0x2139]),
  ("information_desk_person", [0x1f481]), ("information_source", [0x2139]), ("innocent", [0x1f607]),
  ("input_latin_letters", [0x1f524]), ("input_latin_lowercase", [0x1f521]),
  ("input_latin_uppercase", [0x1f520]), ("input_numbers", [0x1f522]), ("input_symbols", [0x1f523]),
  ("interrobang", [0x2049]), ("iphone", [0x1f4f1]), ("iran", [0x1f1ee, 0x1f1f7]),
  ("iraq", [0x1f1ee, 0x1f1f6]), ("ireland", [0x1f1ee, 0x1f1ea]), ("isle_of_man", [0x1f1ee, 0x1f1f2]),
  ("israel", [0x1f1ee, 0x1f1f1]), ("italy", [0x1f1ee, 0x1f1f9]), ("izakaya_lantern", [0x1f3ee]),
  ("jack-o-lantern", [0x1f383]), ("jack_o_lantern", [0x1f383]), ("jamaica", [0x1f1ef, 0x1f1f2]),
  ("japan", [0x1f5fe]), ("japanese_acceptable_button", [0x1f251]), ("japanese_application_button", [0x1f238]),
  ("japanese_bargain_button", [0x1f250]), ("japanese_castle", [0x1f3ef]),
  ("japanese_congratulations_button", [0x3297]), ("japanese_discount_button", [0x1f239]),
  ("japanese_dolls", [0x1f38e]), ("japanese_free_of_charge_button", [0x1f21a]),
  ("japanese_goblin", [0x1f47a]), ("japanese_here_button", [0x1f201]),
  ("japanese_monthly_amount_button", [0x1f237]), ("japanese_no_vacancy_button", [0x1f235]),
  ("japanese_not_free_of_charge_button", [0x1f236]), ("japanese_ogre", [0x1f479]),
  ("japanese_open_for_business_button", [0x1f23a]), ("japanese_passing_grade_button", [0x1f234]),
  ("japanese_post_office", [0x1f3e3]), ("japanese_prohibited_button", [0x1f232]),
  ("japanese_reserved_button", [0x1f22f]), ("japanese_secret_button", [0x3299]),
  ("japanese_service_charge_button", [0x1f202])]

def namesGtoL3 : List (String × List Nat) := [
  ("japanese_symbol_for_beginner", [0x1f530]), ("japanese_vacancy_button", [0x1f233]), ("jeans", [0x1f456]),
  ("jersey", [0x1f1ef, 0x1f1ea]), ("jigsaw", [0x1f9e9]), ("joker", [0x1f0cf]), ("jordan", [0x1f1ef, 0x1f1f4]),
  ("joy", [0x1f602]), ("joy_cat", [0x1f639]), ("joystick", [0x1f579]), ("kaaba", [0x1f54b]),
  ("kangaroo", [0x1f998]), ("kazakhstan", [0x1f1f0, 0x1f1ff]), ("kenya", [0x1f1f0, 0x1f1ea]),
  ("key", [0x1f511]), ("keyboard", [0x2328]), ("keycap_#", [0x23, 0xfe0f, 0x20e3]),
  ("keycap_*", [0x2a, 0xfe0f, 0x20e3]), ("keycap_0", [0x30, 0xfe0f, 0x20e3]),
  ("keycap_1", [0x31, 0xfe0f, 0x20e3]), ("keycap_10", [0x1f51f]), ("keycap_2", [0x32, 0xfe0f, 0x20e3]),
  ("keycap_3", [0x33, 0xfe0f, 0x20e3]), ("keycap_4", [0x34, 0xfe0f, 0x20e3]),
  ("keycap_5", [0x35, 0xfe0f, 0x20e3]), ("keycap_6", [0x36, 0xfe0f, 0x20e3]),
  ("keycap_7", [0x37, 0xfe0f, 0x20e3]), ("keycap_8", [0x38, 0xfe0f, 0x20e3]),
  ("keycap_9", [0x39, 0xfe0f, 0x20e3]), ("keycap_asterisk", [0x2a, 0x20e3]),
  ("keycap_digit_eight", [0x38, 0x20e3]), ("keycap_digit_five", [0x35, 0x20e3]),
  ("keycap_digit_four", [0x34, 0x20e3]), ("keycap_digit_nine", [0x39, 0x20e3]),
  ("keycap_digit_one", [0x31, 0x20e3]), ("keycap_digit_seven", [0x37, 0x20e3]),
  ("keycap_digit_six", [0x36, 0x20e3]), ("keycap_digit_three", [0x33, 0x20e3]),
  ("keycap_digit_two", [0x32, 0x20e3]), ("keycap_digit_zero", [0x30, 0x20e3]),
  ("keycap_number_sign", [0x23, 0x20e3]), ("kick_scooter", [0x1f6f4]), ("kimono", [0x1f458]),
  ("kiribati", [0x1f1f0, 0x1f1ee]), ("kiss", [0x1f48b]),
  ("kiss_man_man", [0x1f468, 0x200d, 0x2764, 0xfe0f, 0x200d, 0x1f48b, 0x200d, 0x1f468]),
  ("kiss_mark", [0x1f48b]),
  ("kiss_woman_man", [0x1f469, 0x200d, 0x2764, 0xfe0f, 0x200d, 0x1f48b, 0x200d, 0x1f468]),
  ("kiss_woman_woman", [0x1f469, 0x200d, 0x2764, 0xfe0f, 0x200d, 0x1f48b, 0x200d, 0x1f469]),
  ("kissing", [0x1f617]), ("kissing_cat", [0x1f63d]), ("kissing_cat_face", [0x1f63d]),
  ("kissing_closed_eyes", [0x1f61a]), ("kissing_face", [0x1f617]),
  ("kissing_face_with_closed_eyes", [0x1f61a]), ("kissing_face_with_smiling_eyes", [0x1f619]),
  ("kissing_heart", [0x1f618]), ("kissing_smiling_eyes", [0x1f619]), ("kitchen_knife", [0x1f52a]),
  ("kite", [0x1fa81]), ("kiwi_fruit", [0x1f95d]), ("knife", [0x1f52a]), ("koala", [0x1f428]),
  ("koko", [0x1f201]), ("kosovo", [0x1f1fd, 0x1f1f0]), ("kuwait", [0x1f1f0, 0x1f1fc]),
  ("kyrgyzstan", [0x1f1f0, 0x1f1ec]), ("lab_coat", [0x1f97c]), ("label", [0x1f3f7]), ("lacrosse", [0x1f94d]),
  ("lady_beetle", [0x1f41e]), ("lantern", [0x1f3ee]), ("laos", [0x1f1f1, 0x1f1e6]),
  ("laptop_computer", [0x1f4bb]), ("large_blue_circle", [0x1f535]), ("large_blue_diamond", [0x1f537]),
  ("large_orange_diamond", [0x1f536]), ("last_quarter_moon", [0x1f317]),
  ("last_quarter_moon_face", [0x1f31c]), ("last_quarter_moon_with_face", [0x1f31c]),
  ("last_track_button", [0x23ee]), ("latin_cross", [0x271d]), ("latvia", [0x1f1f1, 0x1f1fb]),
  ("laughing", [0x1f606]), ("leaf_fluttering_in_wind", [0x1f343]), ("leafy_green", [0x1f96c]),
  ("leaves", [0x1f343]), ("lebanon", [0x1f1f1, 0x1f1e7]), ("ledger", [0x1f4d2]),
  ("left-facing_fist", [0x1f91b]), ("left-facing_fist_dark_skin_tone", [0x1f91b, 0x1f3ff]),
  ("left-facing_fist_light_skin_tone", [0x1f91b, 0x1f3fb]),
  ("left-facing_fist_medium-dark_skin_tone", [0x1f91b, 0x1f3fe]),
  ("left-facing_fist_medium-light_skin_tone", [0x1f91b, 0x1f3fc]),
  ("left-facing_fist_medium_skin_tone", [0x1f91b, 0x1f3fd]), ("left-right_arrow", [0x2194]),
  ("left_arrow", [0x2b05]), ("left_arrow_curving_right", [0x21aa]), ("left_luggage", [0x1f6c5]),
  ("left_right_arrow", [0x2194]), ("left_speech_bubble", [0x1f5e8]), ("leftwards_arrow_with_hook", [0x21a9]),
  ("leg", [0x1f9b5]), ("lemon", [0x1f34b]), ("leo", [0x264c]), ("leopard", [0x1f406]),
  ("lesotho", [0x1f1f1, 0x1f1f8]), ("level_slider", [0x1f39a]), ("liberia", [0x1f1f1, 0x1f1f7]),
  ("libra", [0x264e]), ("libya", [0x1f1f1, 0x1f1fe]), ("liechtenstein", [0x1f1f1, 0x1f1ee]),
  ("light_bulb", [0x1f4a1]), ("light_rail", [0x1f688]), ("light_skin_tone", [0x1f3fb]), ("link", [0x1f517]),
  ("linked_paperclips", [0x1f587]), ("lion_face", [0x1f981]), ("lips", [0x1f444]), ("lipstick", [0x1f484])]

def namesGtoL4 : List (String × List Nat) := [
  ("lithuania", [0x1f1f1, 0x1f1f9]), ("litter_in_bin_sign", [0x1f6ae]), ("lizard", [0x1f98e]),
  ("llama", [0x1f999]), ("lobster", [0x1f99e]), ("lock", [0x1f512]), ("lock_with_ink_pen", [0x1f50f]),
  ("locked", [0x1f512]), ("locked_with_key", [0x1f510]), ("locked_with_pen", [0x1f50f]),
  ("locomotive", [0x1f682]), ("lollipop", [0x1f36d]), ("loop", [0x27bf]), ("lotion_bottle", [0x1f9f4]),
  ("loud_sound", [0x1f50a]), ("loudly_crying_face", [0x1f62d]), ("loudspeaker", [0x1f4e2]),
  ("love-you_gesture", [0x1f91f]), ("love-you_gesture_dark_skin_tone", [0x1f91f, 0x1f3ff]),
  ("love-you_gesture_light_skin_tone", [0x1f91f, 0x1f3fb]),
  ("love-you_gesture_medium-dark_skin_tone", [0x1f91f, 0x1f3fe]),
  ("love-you_gesture_medium-light_skin_tone", [0x1f91f, 0x1f3fc]),
  ("love-you_gesture_medium_skin_tone", [0x1f91f, 0x1f3fd]), ("love_hotel", [0x1f3e9]),
  ("love_letter", [0x1f48c]), ("low_brightness", [0x1f505]), ("lower_left_ballpoint_pen", [0x1f58a]),
  ("lower_left_crayon", [0x1f58d]), ("lower_left_fountain_pen", [0x1f58b]),
  ("lower_left_paintbrush", [0x1f58c]), ("luggage", [0x1f9f3]), ("luxembourg", [0x1f1f1, 0x1f1fa]),
  ("lying_face", [0x1f925])]

def namesGtoL : List (String × List Nat) :=
  namesGtoL1 ++ namesGtoL2 ++ namesGtoL3 ++ namesGtoL4

end Phrasebook.Emoji
