/-!
# Names of emoji, q to s

The names of emoji that start with a letter from q to s, each with the characters it stands for.
-/

namespace Phrasebook.Emoji

def namesQtoS1 : List (String × List Nat) := [
  ("qatar", [0x1f1f6, 0x1f1e6]), ("question", [0x2753]), ("question_mark", [0x2753]), ("rabbit", [0x1f430]),
  ("rabbit2", [0x1f407]), ("rabbit_face", [0x1f430]), ("raccoon", [0x1f99d]), ("racehorse", [0x1f40e]),
  ("racing_car", [0x1f3ce]), ("racing_motorcycle", [0x1f3cd]), ("radio", [0x1f4fb]),
  ("radio_button", [0x1f518]), ("radioactive", [0x2622]), ("radioactive_sign", [0x2622]), ("rage", [0x1f621]),
  ("railway_car", [0x1f683]), ("railway_track", [0x1f6e4]), ("rainbow", [0x1f308]),
  ("rainbow_flag", [0x1f3f3, 0xfe0f, 0x200d, 0x1f308]), ("raised_back_of_hand", [0x1f91a]),
  ("raised_back_of_hand_dark_skin_tone", [0x1f91a, 0x1f3ff]),
  ("raised_back_of_hand_light_skin_tone", [0x1f91a, 0x1f3fb]),
  ("raised_back_of_hand_medium-dark_skin_tone", [0x1f91a, 0x1f3fe]),
  ("raised_back_of_hand_medium-light_skin_tone", [0x1f91a, 0x1f3fc]),
  ("raised_back_of_hand_medium_skin_tone", [0x1f91a, 0x1f3fd]), ("raised_fist", [0x270a]),
  ("raised_fist_dark_skin_tone", [0x270a, 0x1f3ff]), ("raised_fist_light_skin_tone", [0x270a, 0x1f3fb]),
  ("raised_fist_medium-dark_skin_tone", [0x270a, 0x1f3fe]),
  ("raised_fist_medium-light_skin_tone", [0x270a, 0x1f3fc]),
  ("raised_fist_medium_skin_tone", [0x270a, 0x1f3fd]), ("raised_hand", [0x270b]),
  ("raised_hand_dark_skin_tone", [0x270b, 0x1f3ff]), ("raised_hand_light_skin_tone", [0x270b, 0x1f3fb]),
  ("raised_hand_medium-dark_skin_tone", [0x270b, 0x1f3fe]),
  ("raised_hand_medium-light_skin_tone", [0x270b, 0x1f3fc]),
  ("raised_hand_medium_skin_tone", [0x270b, 0x1f3fd]), ("raised_hand_with_fingers_splayed", [0x1f590]),
  ("raised_hand_with_part_between_middle_and_ring_fingers", [0x1f596]), ("raised_hands", [0x1f64c]),
  ("raising_hand", [0x1f64b]), ("raising_hands", [0x1f64c]),
  ("raising_hands_dark_skin_tone", [0x1f64c, 0x1f3ff]), ("raising_hands_light_skin_tone", [0x1f64c, 0x1f3fb]),
  ("raising_hands_medium-dark_skin_tone", [0x1f64c, 0x1f3fe]),
  ("raising_hands_medium-light_skin_tone", [0x1f64c, 0x1f3fc]),
  ("raising_hands_medium_skin_tone", [0x1f64c, 0x1f3fd]), ("ram", [0x1f40f]), ("ramen", [0x1f35c]),
  ("rat", [0x1f400]), ("razor", [0x1fa92]), ("receipt", [0x1f9fe]), ("record_button", [0x23fa]),
  ("recycle", [0x267b]), ("recycling_symbol", [0x267b]), ("red-haired_man", [0x1f468, 0x200d, 0x1f9b0]),
  ("red-haired_woman", [0x1f469, 0x200d, 0x1f9b0]), ("red_apple", [0x1f34e]), ("red_car", [0x1f697]),
  ("red_circle", [0x1f534]), ("red_envelope", [0x1f9e7]), ("red_hair", [0x1f9b0]), ("red_heart", [0x2764]),
  ("red_paper_lantern", [0x1f3ee]), ("red_square", [0x1f7e5]), ("red_triangle_pointed_down", [0x1f53b]),
  ("red_triangle_pointed_up", [0x1f53a]), ("regional_indicator_a", [0x1f1e6]),
  ("regional_indicator_b", [0x1f1e7]), ("regional_indicator_c", [0x1f1e8]),
  ("regional_indicator_d", [0x1f1e9]), ("regional_indicator_e", [0x1f1ea]),
  ("regional_indicator_f", [0x1f1eb]), ("regional_indicator_g", [0x1f1ec]),
  ("regional_indicator_h", [0x1f1ed]), ("regional_indicator_i", [0x1f1ee]),
  ("regional_indicator_j", [0x1f1ef]), ("regional_indicator_k", [0x1f1f0]),
  ("regional_indicator_l", [0x1f1f1]), ("regional_indicator_m", [0x1f1f2]),
  ("regional_indicator_n", [0x1f1f3]), ("regional_indicator_o", [0x1f1f4]),
  ("regional_indicator_p", [0x1f1f5]), ("regional_indicator_q", [0x1f1f6]),
  ("regional_indicator_r", [0x1f1f7]), ("regional_indicator_s", [0x1f1f8]),
  ("regional_indicator_symbol_letter_a", [0x1f1e6]), ("regional_indicator_symbol_letter_b", [0x1f1e7]),
  ("regional_indicator_symbol_letter_c", [0x1f1e8]), ("regional_indicator_symbol_letter_d", [0x1f1e9]),
  ("regional_indicator_symbol_letter_e", [0x1f1ea]), ("regional_indicator_symbol_letter_f", [0x1f1eb]),
  ("regional_indicator_symbol_letter_g", [0x1f1ec]), ("regional_indicator_symbol_letter_h", [0x1f1ed]),
  ("regional_indicator_symbol_letter_i", [0x1f1ee]), ("regional_indicator_symbol_letter_j", [0x1f1ef]),
  ("regional_indicator_symbol_letter_k", [0x1f1f0]), ("regional_indicator_symbol_letter_l", [0x1f1f1]),
  ("regional_indicator_symbol_letter_m", [0x1f1f2]), ("regional_indicator_symbol_letter_n", [0x1f1f3]),
  ("regional_indicator_symbol_letter_o", [0x1f1f4]), ("regional_indicator_symbol_letter_p", [0x1f1f5]),
  ("regional_indicator_symbol_letter_q", [0x1f1f6]), ("regional_indicator_symbol_letter_r", [0x1f1f7]),
  ("regional_indicator_symbol_letter_s", [0x1f1f8]), ("regional_indicator_symbol_letter_t", [0x1f1f9]),
  ("regional_indicator_symbol_letter_u", [0x1f1fa]), ("regional_indicator_symbol_letter_v", [0x1f1fb]),
  ("regional_indicator_symbol_letter_w", [0x1f1fc]), ("regional_indicator_symbol_letter_x", [0x1f1fd]),
  ("regional_indicator_symbol_letter_y", [0x1f1fe]), ("regional_indicator_symbol_letter_z", [0x1f1ff]),
  ("regional_indicator_t", [0x1f1f9]), ("regional_indicator_u", [0x1f1fa]),
  ("regional_indicator_v", [0x1f1fb]), ("regional_indicator_w", [0x1f1fc]),
  ("regional_indicator_x", [0x1f1fd]), ("regional_indicator_y", [0x1f1fe]),
  ("regional_indicator_z", [0x1f1ff]), ("registered", [0xae])]

def namesQtoS2 : List (String × List Nat) := [
  ("relaxed", [0x263a]), ("relieved", [0x1f60c]), ("relieved_face", [0x1f60c]),
  ("reminder_ribbon", [0x1f397]), ("repeat", [0x1f501]), ("repeat_button", [0x1f501]),
  ("repeat_one", [0x1f502]), ("repeat_single_button", [0x1f502]), ("rescue_worker’s_helmet", [0x26d1]),
  ("restroom", [0x1f6bb]), ("reverse_button", [0x25c0]),
  ("reversed_hand_with_middle_finger_extended", [0x1f595]), ("revolving_hearts", [0x1f49e]),
  ("rewind", [0x23ea]), ("rhinoceros", [0x1f98f]), ("ribbon", [0x1f380]), ("rice", [0x1f35a]),
  ("rice_ball", [0x1f359]), ("rice_cracker", [0x1f358]), ("rice_scene", [0x1f391]),
  ("right-facing_fist", [0x1f91c]), ("right-facing_fist_dark_skin_tone", [0x1f91c, 0x1f3ff]),
  ("right-facing_fist_light_skin_tone", [0x1f91c, 0x1f3fb]),
  ("right-facing_fist_medium-dark_skin_tone", [0x1f91c, 0x1f3fe]),
  ("right-facing_fist_medium-light_skin_tone", [0x1f91c, 0x1f3fc]),
  ("right-facing_fist_medium_skin_tone", [0x1f91c, 0x1f3fd]), ("right_anger_bubble", [0x1f5ef]),
  ("right_arrow", [0x27a1]), ("right_arrow_curving_down", [0x2935]), ("right_arrow_curving_left", [0x21a9]),
  ("right_arrow_curving_up", [0x2934]), ("ring", [0x1f48d]), ("ringed_planet", [0x1fa90]),
  ("roasted_sweet_potato", [0x1f360]), ("robot", [0x1f916]), ("robot_face", [0x1f916]), ("rocket", [0x1f680]),
  ("roll_of_paper", [0x1f9fb]), ("rolled-up_newspaper", [0x1f5de]), ("rolled__up_newspaper", [0x1f5de]),
  ("roller_coaster", [0x1f3a2]), ("rolling_on_the_floor_laughing", [0x1f923]),
  ("romania", [0x1f1f7, 0x1f1f4]), ("rooster", [0x1f413]), ("rose", [0x1f339]), ("rosette", [0x1f3f5]),
  ("rotating_light", [0x1f6a8]), ("round_pushpin", [0x1f4cd]), ("rowboat", [0x1f6a3]),
  ("rugby_football", [0x1f3c9]), ("runner", [0x1f3c3]), ("running", [0x1f3c3]), ("running_shirt", [0x1f3bd]),
  ("running_shirt_with_sash", [0x1f3bd]), ("running_shoe", [0x1f45f]), ("russia", [0x1f1f7, 0x1f1fa]),
  ("rwanda", [0x1f1f7, 0x1f1fc]), ("réunion", [0x1f1f7, 0x1f1ea]), ("sa", [0x1f202]),
  ("sad_but_relieved_face", [0x1f625]), ("safety_pin", [0x1f9f7]), ("safety_vest", [0x1f9ba]),
  ("sagittarius", [0x2650]), ("sailboat", [0x26f5]), ("sake", [0x1f376]), ("salt", [0x1f9c2]),
  ("samoa", [0x1f1fc, 0x1f1f8]), ("san_marino", [0x1f1f8, 0x1f1f2]), ("sandal", [0x1f461]),
  ("sandwich", [0x1f96a]), ("santa", [0x1f385]), ("santa_claus", [0x1f385]),
  ("santa_claus_dark_skin_tone", [0x1f385, 0x1f3ff]), ("santa_claus_light_skin_tone", [0x1f385, 0x1f3fb]),
  ("santa_claus_medium-dark_skin_tone", [0x1f385, 0x1f3fe]),
  ("santa_claus_medium-light_skin_tone", [0x1f385, 0x1f3fc]),
  ("santa_claus_medium_skin_tone", [0x1f385, 0x1f3fd]), ("sari", [0x1f97b]), ("satellite", [0x1f4e1]),
  ("satellite_antenna", [0x1f4e1]), ("satisfied", [0x1f606]), ("saudi_arabia", [0x1f1f8, 0x1f1e6]),
  ("sauropod", [0x1f995]), ("saxophone", [0x1f3b7]), ("scales", [0x2696]), ("scarf", [0x1f9e3]),
  ("school", [0x1f3eb]), ("school_backpack", [0x1f392]), ("school_satchel", [0x1f392]),
  ("scissors", [0x2702]), ("scorpio", [0x264f]), ("scorpion", [0x1f982]), ("scorpius", [0x264f]),
  ("scotland", [0x1f3f4, 0xe0067, 0xe0062, 0xe0073, 0xe0063, 0xe0074, 0xe007f]), ("scream", [0x1f631]),
  ("scream_cat", [0x1f640]), ("scroll", [0x1f4dc]), ("seat", [0x1f4ba]), ("secret", [0x3299]),
  ("see-no-evil_monkey", [0x1f648]), ("see_no_evil", [0x1f648]), ("seedling", [0x1f331]),
  ("selfie", [0x1f933]), ("selfie_dark_skin_tone", [0x1f933, 0x1f3ff]),
  ("selfie_light_skin_tone", [0x1f933, 0x1f3fb]), ("selfie_medium-dark_skin_tone", [0x1f933, 0x1f3fe]),
  ("selfie_medium-light_skin_tone", [0x1f933, 0x1f3fc]), ("selfie_medium_skin_tone", [0x1f933, 0x1f3fd]),
  ("senegal", [0x1f1f8, 0x1f1f3]), ("serbia", [0x1f1f7, 0x1f1f8]),
  ("service_dog", [0x1f415, 0x200d, 0x1f9ba]), ("seven", [0x37, 0xfe0f, 0x20e3]), ("seven-thirty", [0x1f562]),
  ("seven_o’clock", [0x1f556]), ("seychelles", [0x1f1f8, 0x1f1e8]), ("shallow_pan_of_food", [0x1f958]),
  ("shamrock", [0x2618]), ("shark", [0x1f988]), ("shaved_ice", [0x1f367]), ("sheaf_of_rice", [0x1f33e])]

def namesQtoS3 : List (String × List Nat) := [
  ("sheep", [0x1f411]), ("shell", [0x1f41a]), ("shield", [0x1f6e1]), ("shinto_shrine", [0x26e9]),
  ("ship", [0x1f6a2]), ("shirt", [0x1f455]), ("shit", [0x1f4a9]), ("shoe", [0x1f45e]),
  ("shooting_star", [0x1f320]), ("shopping_bags", [0x1f6cd]), ("shopping_cart", [0x1f6d2]),
  ("shortcake", [0x1f370]), ("shorts", [0x1fa73]), ("shower", [0x1f6bf]), ("shrimp", [0x1f990]),
  ("shuffle_tracks_button", [0x1f500]), ("shushing_face", [0x1f92b]), ("sierra_leone", [0x1f1f8, 0x1f1f1]),
  ("sign_of_the_horns", [0x1f918]), ("sign_of_the_horns_dark_skin_tone", [0x1f918, 0x1f3ff]),
  ("sign_of_the_horns_light_skin_tone", [0x1f918, 0x1f3fb]),
  ("sign_of_the_horns_medium-dark_skin_tone", [0x1f918, 0x1f3fe]),
  ("sign_of_the_horns_medium-light_skin_tone", [0x1f918, 0x1f3fc]),
  ("sign_of_the_horns_medium_skin_tone", [0x1f918, 0x1f3fd]), ("signal_strength", [0x1f4f6]),
  ("singapore", [0x1f1f8, 0x1f1ec]), ("sint_maarten", [0x1f1f8, 0x1f1fd]), ("six", [0x36, 0xfe0f, 0x20e3]),
  ("six-thirty", [0x1f561]), ("six_o’clock", [0x1f555]), ("six_pointed_star", [0x1f52f]),
  ("skateboard", [0x1f6f9]), ("ski", [0x1f3bf]), ("skier", [0x26f7]), ("skis", [0x1f3bf]),
  ("skull", [0x1f480]), ("skull_and_crossbones", [0x2620]), ("skunk", [0x1f9a8]), ("sled", [0x1f6f7]),
  ("sleeping", [0x1f634]), ("sleeping_accommodation", [0x1f6cc]), ("sleeping_face", [0x1f634]),
  ("sleepy", [0x1f62a]), ("sleepy_face", [0x1f62a]), ("sleuth_or_spy", [0x1f575]),
  ("slightly_frowning_face", [0x1f641]), ("slightly_smiling_face", [0x1f642]), ("slot_machine", [0x1f3b0]),
  ("sloth", [0x1f9a5]), ("slovakia", [0x1f1f8, 0x1f1f0]), ("slovenia", [0x1f1f8, 0x1f1ee]),
  ("small_airplane", [0x1f6e9]), ("small_blue_diamond", [0x1f539]), ("small_orange_diamond", [0x1f538]),
  ("small_red_triangle", [0x1f53a]), ("small_red_triangle_down", [0x1f53b]), ("smile", [0x1f604]),
  ("smile_cat", [0x1f638]), ("smiley", [0x1f603]), ("smiley_cat", [0x1f63a]),
  ("smiling_cat_face_with_heart-eyes", [0x1f63b]), ("smiling_face", [0x263a]),
  ("smiling_face_with_3_hearts", [0x1f970]), ("smiling_face_with_halo", [0x1f607]),
  ("smiling_face_with_heart-eyes", [0x1f60d]), ("smiling_face_with_horns", [0x1f608]),
  ("smiling_face_with_smiling_eyes", [0x1f60a]), ("smiling_face_with_sunglasses", [0x1f60e]),
  ("smiling_imp", [0x1f608]), ("smirk", [0x1f60f]), ("smirk_cat", [0x1f63c]), ("smirking_face", [0x1f60f]),
  ("smoking", [0x1f6ac]), ("snail", [0x1f40c]), ("snake", [0x1f40d]), ("sneezing_face", [0x1f927]),
  ("snow-capped_mountain", [0x1f3d4]), ("snow_capped_mountain", [0x1f3d4]), ("snowboarder", [0x1f3c2]),
  ("snowboarder_dark_skin_tone", [0x1f3c2, 0x1f3ff]), ("snowboarder_light_skin_tone", [0x1f3c2, 0x1f3fb]),
  ("snowboarder_medium-dark_skin_tone", [0x1f3c2, 0x1f3fe]),
  ("snowboarder_medium-light_skin_tone", [0x1f3c2, 0x1f3fc]),
  ("snowboarder_medium_skin_tone", [0x1f3c2, 0x1f3fd]), ("snowflake", [0x2744]), ("snowman", [0x2603]),
  ("snowman_without_snow", [0x26c4]), ("soap", [0x1f9fc]), ("sob", [0x1f62d]), ("soccer", [0x26bd]),
  ("soccer_ball", [0x26bd]), ("socks", [0x1f9e6]), ("soft_ice_cream", [0x1f366]), ("softball", [0x1f94e]),
  ("solomon_islands", [0x1f1f8, 0x1f1e7]), ("somalia", [0x1f1f8, 0x1f1f4]), ("soon", [0x1f51c]),
  ("soon_arrow", [0x1f51c]), ("sos", [0x1f198]), ("sos_button", [0x1f198]), ("sound", [0x1f509]),
  ("south_africa", [0x1f1ff, 0x1f1e6]), ("south_georgia_&_south_sandwich_islands", [0x1f1ec, 0x1f1f8]),
  ("south_korea", [0x1f1f0, 0x1f1f7]), ("south_sudan", [0x1f1f8, 0x1f1f8]), ("space_invader", [0x1f47e]),
  ("spade_suit", [0x2660]), ("spades", [0x2660]), ("spaghetti", [0x1f35d]), ("spain", [0x1f1ea, 0x1f1f8]),
  ("sparkle", [0x2747]), ("sparkler", [0x1f387]), ("sparkles", [0x2728]), ("sparkling_heart", [0x1f496]),
  ("speak-no-evil_monkey", [0x1f64a]), ("speak_no_evil", [0x1f64a]), ("speaker", [0x1f508]),
  ("speaker_high_volume", [0x1f50a]), ("speaker_low_volume", [0x1f508]), ("speaker_medium_volume", [0x1f509])]

def namesQtoS4 : List (String × List Nat) := [
  ("speaking_head", [0x1f5e3]), ("speaking_head_in_silhouette", [0x1f5e3]), ("speech_balloon", [0x1f4ac]),
  ("speedboat", [0x1f6a4]), ("spider", [0x1f577]), ("spider_web", [0x1f578]), ("spiral_calendar", [0x1f5d3]),
  ("spiral_calendar_pad", [0x1f5d3]), ("spiral_note_pad", [0x1f5d2]), ("spiral_notepad", [0x1f5d2]),
  ("spiral_shell", [0x1f41a]), ("sponge", [0x1f9fd]), ("spoon", [0x1f944]),
  ("sport_utility_vehicle", [0x1f699]), ("sports_medal", [0x1f3c5]), ("spouting_whale", [0x1f433]),
  ("squid", [0x1f991]), ("squinting_face_with_tongue", [0x1f61d]), ("sri_lanka", [0x1f1f1, 0x1f1f0]),
  ("st._barthélemy", [0x1f1e7, 0x1f1f1]), ("st._helena", [0x1f1f8, 0x1f1ed]),
  ("st._kitts_&_nevis", [0x1f1f0, 0x1f1f3]), ("st._lucia", [0x1f1f1, 0x1f1e8]),
  ("st._martin", [0x1f1f2, 0x1f1eb]), ("st._pierre_&_miquelon", [0x1f1f5, 0x1f1f2]),
  ("st._vincent_&_grenadines", [0x1f1fb, 0x1f1e8]), ("stadium", [0x1f3df]), ("star", [0x2b50]),
  ("star-struck", [0x1f929]), ("star2", [0x1f31f]), ("star_and_crescent", [0x262a]),
  ("star_of_david", [0x2721]), ("stars", [0x1f320]), ("station", [0x1f689]), ("statue_of_liberty", [0x1f5fd]),
  ("steam_locomotive", [0x1f682]), ("steaming_bowl", [0x1f35c]), ("stethoscope", [0x1fa7a]),
  ("stew", [0x1f372]), ("stop_button", [0x23f9]), ("stop_sign", [0x1f6d1]), ("stopwatch", [0x23f1]),
  ("straight_ruler", [0x1f4cf]), ("strawberry", [0x1f353]), ("stuck_out_tongue", [0x1f61b]),
  ("stuck_out_tongue_closed_eyes", [0x1f61d]), ("stuck_out_tongue_winking_eye", [0x1f61c]),
  ("studio_microphone", [0x1f399]), ("stuffed_flatbread", [0x1f959]), ("sudan", [0x1f1f8, 0x1f1e9]),
  ("sun", [0x2600]), ("sun_behind_cloud", [0x26c5]), ("sun_behind_large_cloud", [0x1f325]),
  ("sun_behind_rain_cloud", [0x1f326]), ("sun_behind_small_cloud", [0x1f324]), ("sun_with_face", [0x1f31e]),
  ("sunflower", [0x1f33b]), ("sunglasses", [0x1f60e]), ("sunny", [0x2600]), ("sunrise", [0x1f305]),
  ("sunrise_over_mountains", [0x1f304]), ("sunset", [0x1f307]), ("superhero", [0x1f9b8]),
  ("supervillain", [0x1f9b9]), ("surfer", [0x1f3c4]), ("suriname", [0x1f1f8, 0x1f1f7]), ("sushi", [0x1f363]),
  ("suspension_railway", [0x1f69f]), ("svalbard_&_jan_mayen", [0x1f1f8, 0x1f1ef]), ("swan", [0x1f9a2]),
  ("swaziland", [0x1f1f8, 0x1f1ff]), ("sweat", [0x1f613]), ("sweat_droplets", [0x1f4a6]),
  ("sweat_drops", [0x1f4a6]), ("sweat_smile", [0x1f605]), ("sweden", [0x1f1f8, 0x1f1ea]),
  ("sweet_potato", [0x1f360]), ("swimmer", [0x1f3ca]), ("switzerland", [0x1f1e8, 0x1f1ed]),
  ("symbols", [0x1f523]), ("synagogue", [0x1f54d]), ("syria", [0x1f1f8, 0x1f1fe]), ("syringe", [0x1f489]),
  ("são_tomé_&_príncipe", [0x1f1f8, 0x1f1f9])]

def namesQtoS : List (String × List Nat) :=
  namesQtoS1 ++ namesQtoS2 ++ namesQtoS3 ++ namesQtoS4

end Phrasebook.Emoji
